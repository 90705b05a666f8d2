import ToolGateway.Proofs.Decimal.Shortest
import ToolGateway.Proofs.Json.Grammar

namespace ToolGateway.Json

def worth (s : List Char) : ℕ := digitsValue (s.map Text.digitValue)

def Literal.size (l : Literal) : ℚ := digitsValue (l.whole ++ l.fraction) * 10 ^ (l.exponent.getD 0 - l.fraction.length)

-- A number as a real one is written.
structure Literal.Shows (l : Literal) (negative : Bool) (size : ℚ) : Prop where
  sign : l.negative = negative
  size : l.size = size
  marked : l.fraction ≠ [] ∨ l.exponent ≠ none

section
variable {s t front places digits rest : List Char} {first : Char} {n zeros : ℕ} {point : ℤ} {e : Option ℤ}

theorem worth_append (s t : List Char) : worth (s ++ t) = worth s * 10 ^ t.length + worth t := by
  induction t using List.reverseRecOn with
  | nil => simp [worth, digitsValue]
  | append_singleton t c ih =>
    have last (s : List Char) : worth (s ++ [c]) = worth s * 10 + Text.digitValue c := by simp [worth, digitsValue]
    rw [← List.append_assoc, last, ih, last, List.length_append, List.length_singleton, Nat.pow_succ]
    ring

theorem worth_zeros (count : ℕ) : worth (List.replicate count '0') = 0 := by
  induction count with
  | zero => rfl
  | succ count ih =>
    rw [List.replicate_succ', worth_append, ih]
    rfl

theorem worth_shifted (s : List Char) (count : ℕ) (power : ℤ) :
    (worth (s ++ List.replicate count '0') : ℚ) * 10 ^ power = worth s * 10 ^ (power + count) := by
  rw [worth_append, worth_zeros, List.length_replicate, zpow_add₀ (by decide), zpow_natCast]
  push_cast
  ring

theorem size_spelled (negative : Bool) (front places : List Char) (e : Option ℤ) :
    (Literal.mk negative (front.map Text.digitValue) (places.map Text.digitValue) e).size =
      worth (front ++ places) * 10 ^ (e.getD 0 - places.length) := by
  simp [Literal.size, worth]

theorem split_spelled (d : Decimal.Digits) :
    ∃ zeros, Nat.toDigits 10 d.digits = d.split.1 ++ List.replicate zeros '0' := by
  have whole := List.takeWhile_append_dropWhile (p := (· = '0')) (l := (Nat.toDigits 10 d.digits).reverse)
  have zeros := List.all_takeWhile (p := fun c : Char => decide (c = '0')) (l := (Nat.toDigits 10 d.digits).reverse)
  have repeated := List.eq_replicate_of_mem fun c present => of_decide_eq_true (List.all_eq_true.mp zeros c present)
  rw [repeated] at whole
  have turned := congrArg List.reverse whole
  rw [List.reverse_append, List.reverse_reverse, List.reverse_replicate] at turned
  exact ⟨_, turned.symm⟩

theorem split_digits (d : Decimal.Digits) : ∀ c ∈ d.split.1, c.isDigit = true := by
  obtain ⟨zeros, spelled⟩ := split_spelled d
  intro c present
  apply digits_toDigits d.digits c
  rw [spelled]
  exact List.mem_append_left _ present

theorem split_start {d : Decimal.Digits} (nonzero : d.digits ≠ 0) :
    ∃ first rest, d.split.1 = first :: rest ∧ first ≠ '0' := by
  obtain ⟨zeros, spelled⟩ := split_spelled d
  obtain ⟨first, rest, shape, zero⟩ := toDigits_leads d.digits
  have notZero : first ≠ '0' := fun equal => nonzero (zero equal).1
  rw [shape] at spelled
  cases kept : d.split.1 with
  | cons c more =>
    rw [kept] at spelled
    exact ⟨c, more, rfl, (List.cons.inj spelled).1 ▸ notZero⟩
  | nil =>
    rw [kept, List.nil_append] at spelled
    have among : first ∈ List.replicate zeros '0' := spelled ▸ List.mem_cons_self
    exact absurd (List.mem_replicate.mp among).2 notZero

theorem split_value (d : Decimal.Digits) : d.value = worth d.split.1 * 10 ^ (d.split.2 - d.split.1.length) := by
  obtain ⟨zeros, spelled⟩ := split_spelled d
  have number : worth (Nat.toDigits 10 d.digits) = d.digits := digitsValue_toDigits d.digits
  have point : d.split.2 = (Nat.toDigits 10 d.digits).length + d.power := rfl
  have length := congrArg List.length spelled
  rw [List.length_append, List.length_replicate] at length
  have power : d.split.2 - d.split.1.length = d.power + zeros := by omega
  rw [power, ← worth_shifted, ← spelled, number]
  rfl

theorem number_point (negative : Bool) (leads : Leads front) (present : Digits places) :
    NumberText (signChars negative ++ (front ++ '.' :: places))
      ⟨negative, front.map Text.digitValue, places.map Text.digitValue, none⟩ := by
  have number := NumberText.mk negative leads (.present present) .absent
  rwa [List.append_nil] at number

theorem shows_point (negative : Bool) {size : ℚ} (some_place : places ≠ [])
    (same : worth (front ++ places) * 10 ^ (-(places.length : ℤ)) = size) :
    (Literal.mk negative (front.map Text.digitValue) (places.map Text.digitValue) none).Shows negative size := by
  refine ⟨rfl, ?_, .inl (mt List.map_eq_nil_iff.mp some_place)⟩
  rw [size_spelled, ← same, Option.getD_none, zero_sub]

theorem leads_take (all : ∀ c ∈ first :: rest, c.isDigit = true) (notZero : first ≠ '0') (zeros count : ℕ) :
    Leads ((first :: rest).take (count + 1) ++ List.replicate zeros '0') := by
  refine ⟨fun c present => ?_, first, _, by rw [List.take_succ_cons, List.cons_append], fun zero => absurd zero notZero⟩
  rcases List.mem_append.mp present with taken | filled
  · exact all c (List.mem_of_mem_take taken)
  · rw [(List.mem_replicate.mp filled).2]
    rfl

theorem digits_filled (zeros : ℕ) (digits : Digits s) : Digits (List.replicate zeros '0' ++ s) := by
  refine ⟨fun none => digits.present (List.append_eq_nil_iff.mp none).2, fun c present => ?_⟩
  rcases List.mem_append.mp present with filled | digit
  · rw [(List.mem_replicate.mp filled).2]
    rfl
  · exact digits.all c digit

-- The point stands before the digits, behind them or among them.
theorem positional_shows (negative : Bool) (all : ∀ c ∈ first :: rest, c.isDigit = true) (notZero : first ≠ '0')
    (point : ℤ) : ∃ l, NumberText (signChars negative ++ Decimal.positionalText realLayout (first :: rest) point) l ∧
      l.Shows negative (worth (first :: rest) * 10 ^ (point - (first :: rest).length)) := by
  unfold Decimal.positionalText
  by_cases left : point ≤ 0
  · have places := digits_filled (-point).toNat ⟨List.cons_ne_nil first rest, all⟩
    simp only [if_pos left]
    split
    · rename_i none
      exact absurd none places.present
    · refine ⟨_, number_point negative leads_zero places, shows_point negative places.present ?_⟩
      have zeros : worth ['0'] = 0 := rfl
      rw [worth_append, worth_append, worth_zeros, zeros, List.length_append, List.length_replicate]
      simp only [Nat.zero_mul, Nat.zero_add]
      congr 2
      push_cast
      omega
  · obtain ⟨count, wide⟩ : ∃ count, point.toNat = count + 1 := ⟨point.toNat - 1, by omega⟩
    have whole := leads_take all notZero (count + 1 - (first :: rest).length) count
    simp only [if_neg left, wide]
    split
    · rename_i none
      have short := List.drop_eq_nil_iff.mp none
      refine ⟨_, number_point negative whole ⟨by decide, leads_zero.all⟩, shows_point negative (by decide) ?_⟩
      rw [List.take_of_length_le short, List.append_assoc, show ['0'] = List.replicate 1 '0' from rfl,
        List.replicate_append_replicate, worth_shifted, List.length_replicate]
      congr 2
      push_cast
      omega
    · rename_i places
      have among : (first :: rest).drop (count + 1) ≠ [] := places
      have long : count + 1 < (first :: rest).length := by
        by_contra short
        exact among (List.drop_eq_nil_iff.mpr (by omega))
      refine ⟨_, number_point negative whole ⟨among, fun c present => all c (List.mem_of_mem_drop present)⟩,
        shows_point negative among ?_⟩
      rw [show count + 1 - (first :: rest).length = 0 by omega, List.replicate_zero, List.append_nil,
        List.take_append_drop, List.length_drop]
      congr 2
      omega

theorem signedDigits_shown (power : ℤ) :
    SignedDigits ((if power < 0 then '-' else '+') :: Nat.toDigits 10 power.natAbs) power := by
  have digits : Digits (Nat.toDigits 10 power.natAbs) := ⟨Nat.toDigits_ne_nil, digits_toDigits _⟩
  split
  · have signed := SignedDigits.minus digits
    rwa [digitsValue_toDigits, show -(power.natAbs : ℤ) = power by omega] at signed
  · have signed := SignedDigits.plus digits
    rwa [digitsValue_toDigits, show (power.natAbs : ℤ) = power by omega] at signed

theorem exponent_shows (negative : Bool) (all : ∀ c ∈ first :: rest, c.isDigit = true) (point : ℤ) :
    ∃ l, NumberText (signChars negative ++ Decimal.exponentText (first :: rest) point) l ∧
      l.Shows negative (worth (first :: rest) * 10 ^ (point - (first :: rest).length)) := by
  have leads : Leads [first] := ⟨fun c present => all c (by simp_all), first, [], rfl, fun _ => rfl⟩
  have power := ExponentText.present (.inl rfl) (signedDigits_shown (point - 1))
  have marked : some (point - 1) ≠ none := by simp
  cases rest with
  | nil =>
    have number := NumberText.mk negative leads .absent power
    refine ⟨_, number, rfl, ?_, .inr marked⟩
    have size := size_spelled negative [first] [] (some (point - 1))
    simpa using size
  | cons second more =>
    have digits : Digits (second :: more) := ⟨List.cons_ne_nil _ _, fun c present => all c (List.mem_cons_of_mem _ present)⟩
    have number := NumberText.mk negative leads (.present digits) power
    refine ⟨_, number, rfl, ?_, .inr marked⟩
    rw [size_spelled]
    simp only [List.singleton_append, Option.getD_some, List.length_cons]
    congr 2
    push_cast
    ring

end

def shownSize (x : Decimal.Magnitude) : ℚ :=
  if x.significand = 0 then 0 else (Decimal.shortest Decimal.double realLayout.tie x).value

theorem real_shows (x : Decimal.Finite) : ∃ l, NumberText (Decimal.finiteText Decimal.double realLayout x) l ∧
    l.Shows x.negative (shownSize x.magnitude) := by
  have shape : Decimal.finiteText Decimal.double realLayout x =
      signChars x.negative ++ Decimal.magnitudeText Decimal.double realLayout x.magnitude := by
    cases sign : x.negative <;> simp [Decimal.finiteText, signChars, sign]
  have nothing : Literal.Shows ⟨x.negative, ['0'].map Text.digitValue, ['0'].map Text.digitValue, none⟩ x.negative 0 :=
    shows_point x.negative (by decide) (by simp [worth, digitsValue, Text.digitValue])
  have zero := number_point x.negative leads_zero ⟨by decide, leads_zero.all⟩
  rw [shape, Decimal.magnitudeText, shownSize]
  split
  · exact ⟨_, zero, nothing⟩
  · rename_i nonzero
    rcases Decimal.shortest_nonzero Decimal.double realLayout.tie nonzero with none | some_digits
    · rw [none]
      exact ⟨_, zero, by simpa [Decimal.Digits.value] using nothing⟩
    · have all := split_digits (Decimal.shortest Decimal.double realLayout.tie x.magnitude)
      obtain ⟨first, rest, front, notZero⟩ := split_start some_digits
      rw [split_value]
      rcases spelled : (Decimal.shortest Decimal.double realLayout.tie x.magnitude).split with ⟨_, point⟩
      rw [spelled] at all front
      cases front
      dsimp only [realLayout]
      split
      · exact positional_shows x.negative all notZero point
      · exact exponent_shows x.negative all point

theorem fits_zero {x : Decimal.Magnitude} (fits : x.Fits Decimal.double) (zero : x.significand = 0) :
    x = ⟨0, Decimal.double.least⟩ := by
  have unit := fits.unit
  have leading := fits.leading
  have bits : 0 < 2 ^ (Decimal.double.precision - 1) := Nat.two_pow_pos _
  have least : x.exponent = Decimal.double.least := by
    by_contra other
    have := leading (by omega)
    omega
  cases x
  cases zero
  cases least
  rfl

theorem shownSize_positive {x : Decimal.Magnitude} (fits : x.Fits Decimal.double) (nonzero : x.significand ≠ 0) :
    0 < shownSize x := by
  rw [shownSize, if_neg nonzero]
  exact Decimal.interval_positive nonzero (Decimal.shortest_holds (by decide) fits nonzero)

theorem shownSize_injective {x y : Decimal.Magnitude} (fits : x.Fits Decimal.double) (other : y.Fits Decimal.double)
    (same : shownSize x = shownSize y) : x = y := by
  by_cases zero : x.significand = 0 <;> by_cases empty : y.significand = 0
  · rw [fits_zero fits zero, fits_zero other empty]
  · have positive := shownSize_positive other empty
    rw [← same, shownSize, if_pos zero] at positive
    exact absurd positive (lt_irrefl 0)
  · have positive := shownSize_positive fits zero
    rw [same, shownSize, if_pos empty] at positive
    exact absurd positive (lt_irrefl 0)
  · rw [shownSize, shownSize, if_neg zero, if_neg empty] at same
    exact Decimal.shortest_apart (by decide) (by decide) fits other zero empty same

theorem real_numeral (x : Decimal.Finite) : Numeral (Decimal.finiteText Decimal.double realLayout x) := by
  obtain ⟨l, number, _⟩ := real_shows x
  exact ⟨⟨l, literal_complete number⟩, number_bare number⟩

end ToolGateway.Json
