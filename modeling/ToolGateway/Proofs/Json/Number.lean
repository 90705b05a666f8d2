import Mathlib
import ToolGateway.Json.Print
import ToolGateway.Json.Value

namespace ToolGateway.Json

theorem nil_stops {p : Char → Prop} : ∀ c, ([] : List Char).head? = some c → p c := fun _ none => by cases none

theorem digitRun_append {digits tail : List Char} (all : ∀ c ∈ digits, c.isDigit = true)
    (stops : ∀ c, tail.head? = some c → c.isDigit = false) :
    digitRun (digits ++ tail) = (digits.map Text.digitValue, tail) := by
  have front : tail.takeWhile Char.isDigit = [] ∧ tail.dropWhile Char.isDigit = tail := by
    cases tail with
    | nil => exact ⟨rfl, rfl⟩
    | cons c rest => simp [stops c rfl]
  rw [digitRun, List.takeWhile_append_of_pos all, List.dropWhile_append_of_pos all, front.1, front.2,
    List.append_nil]

theorem digitValue_eq_zero {c : Char} (digit : c.isDigit = true) (zero : Text.digitValue c = 0) : c = '0' := by
  simp only [Char.isDigit, Bool.and_eq_true, decide_eq_true_eq, UInt32.le_iff_toNat_le] at digit
  have same : c.toNat = '0'.toNat := by
    have : c.toNat - '0'.toNat = 0 := zero
    have : '0'.toNat ≤ c.toNat := digit.1
    omega
  exact Char.toNat_inj.mp same

-- Digits that may stand in front of a point: at least one, and a zero only alone.
structure Leads (digits : List Char) : Prop where
  all : ∀ c ∈ digits, c.isDigit = true
  start : ∃ first rest, digits = first :: rest ∧ (first = '0' → rest = [])

theorem leads_zero : Leads ['0'] :=
  ⟨fun c present => by rw [List.mem_singleton.mp present]; rfl, '0', [], rfl, fun _ => rfl⟩

def signChars (negative : Bool) : List Char := if negative then ['-'] else []

section
variable {whole fraction tail : List Char}

theorem Leads.unsigned (leads : Leads whole) : ∃ first rest, whole = first :: rest ∧ first ≠ '-' := by
  obtain ⟨all, first, rest, rfl, _⟩ := leads
  refine ⟨first, rest, rfl, ?_⟩
  rintro rfl
  exact absurd (all '-' (by simp)) (by decide)

theorem Leads.values (leads : Leads whole) : ∃ first rest, whole.map Text.digitValue = first :: rest ∧
    (first = 0 → rest = []) := by
  obtain ⟨all, first, rest, rfl, alone⟩ := leads
  refine ⟨_, _, rfl, fun zero => ?_⟩
  rw [alone (digitValue_eq_zero (all first (by simp)) zero)]
  rfl

theorem ofChars?_whole (negative : Bool) (leads : Leads whole)
    (stops : ∀ c, tail.head? = some c → c.isDigit = false ∧ c ≠ '.') :
    Literal.ofChars? (signChars negative ++ (whole ++ tail)) =
      Literal.withExponent? ⟨negative, whole.map Text.digitValue, [], none⟩ tail := by
  have run := digitRun_append leads.all fun c first => (stops c first).1
  obtain ⟨first, rest, shape, alone⟩ := leads.values
  obtain ⟨c, more, rfl, notSign⟩ := leads.unsigned
  rw [shape] at run ⊢
  have noPoint : ∀ rest, tail ≠ '.' :: rest := fun rest equal => (stops '.' (by rw [equal]; rfl)).2 rfl
  cases negative <;> cases first <;> cases rest <;>
    simp_all [Literal.ofChars?, signChars]

theorem ofChars?_point (negative : Bool) (leads : Leads whole) (some_digit : fraction ≠ [])
    (all : ∀ c ∈ fraction, c.isDigit = true) (stops : ∀ c, tail.head? = some c → c.isDigit = false) :
    Literal.ofChars? (signChars negative ++ (whole ++ '.' :: (fraction ++ tail))) =
      Literal.withExponent? ⟨negative, whole.map Text.digitValue, fraction.map Text.digitValue, none⟩ tail := by
  have run : digitRun (whole ++ '.' :: (fraction ++ tail)) = _ :=
    digitRun_append leads.all fun c first => by cases first; decide
  have after := digitRun_append all stops
  obtain ⟨first, rest, shape, alone⟩ := leads.values
  obtain ⟨c, more, rfl, notSign⟩ := leads.unsigned
  obtain ⟨d, others, rfl⟩ := List.exists_cons_of_ne_nil some_digit
  rw [shape] at run ⊢
  cases negative <;> cases first <;> cases rest <;> simp_all [Literal.ofChars?, signChars]

end

theorem toDigits_leads (n : Nat) :
    ∃ first rest, Nat.toDigits 10 n = first :: rest ∧ (first = '0' → n = 0 ∧ rest = []) := by
  induction n using Nat.strongRecOn with
  | ind n ih =>
    by_cases small : n < 10
    · refine ⟨n.digitChar, [], Nat.toDigits_of_lt_base small, fun zero => ⟨?_, rfl⟩⟩
      have every : ∀ d < 10, Nat.digitChar d = '0' → d = 0 := by decide
      exact every n small zero
    · obtain ⟨first, rest, shape, nonzero⟩ := ih (n / 10) (by omega)
      refine ⟨first, rest ++ [(n % 10).digitChar], ?_, fun zero => ?_⟩
      · rw [Nat.toDigits_of_base_le (by decide) (by omega), shape]
        rfl
      · have := (nonzero zero).1
        omega

theorem digits_toDigits (n : Nat) : ∀ c ∈ Nat.toDigits 10 n, c.isDigit = true :=
  fun _ present => Nat.isDigit_of_mem_toDigits (by decide) (by decide) present

theorem leads_toDigits (n : Nat) : Leads (Nat.toDigits 10 n) := by
  obtain ⟨first, rest, shape, nonzero⟩ := toDigits_leads n
  exact ⟨digits_toDigits n, first, rest, shape, fun zero => (nonzero zero).2⟩

theorem digitsValue_toDigits (n : Nat) : digitsValue ((Nat.toDigits 10 n).map Text.digitValue) = n := by
  have read (digits : List Char) (start : Nat) :
      (digits.map Text.digitValue).foldl (fun n d => n * 10 + d) start = Nat.ofDigitChars 10 digits start := by
    induction digits generalizing start with
    | nil => rfl
    | cons c rest ih => rw [List.map_cons, List.foldl_cons, ih, Nat.ofDigitChars_cons, Nat.mul_comm]; rfl
  rw [digitsValue, read, Nat.ofDigitChars_toDigits (by decide) (by decide)]

-- A text that is read as a number, in which no character ends a bare word.
structure Numeral (s : List Char) : Prop where
  literal : ∃ l, Literal.ofChars? s = some l
  bare : ∀ c ∈ s, isBare c = true

theorem isBare_digit {c : Char} (digit : c.isDigit = true) : isBare c = true := by
  simp [isBare, Char.isAlphanum, digit]

theorem signChars_bare (negative : Bool) : ∀ c ∈ signChars negative, isBare c = true := by
  cases negative <;> simp [signChars, isBare]

theorem bareToken?_numeral {s : List Char} {l : Literal} (read : Literal.ofChars? s = some l) :
    bareToken? s = some (.number l) := by
  have word {w : List Char} (none : Literal.ofChars? w = none) : s ≠ w := by
    rintro rfl
    cases read.symm.trans none
  rw [bareToken?, if_neg (word (by decide)), if_neg (word (by decide)), if_neg (word (by decide)), read]
  rfl

def wholeLiteral (n : Int) : Literal := ⟨n < 0, (Nat.toDigits 10 n.natAbs).map Text.digitValue, [], none⟩

theorem ofChars?_wholeChars (n : Int) : Literal.ofChars? (wholeChars n) = some (wholeLiteral n) := by
  have read := ofChars?_whole (decide (n < 0)) (leads_toDigits n.natAbs) nil_stops
  have shape : wholeChars n = signChars (decide (n < 0)) ++ (Nat.toDigits 10 n.natAbs ++ []) := by
    by_cases negative : n < 0 <;> simp [wholeChars, signChars, negative]
  rw [shape, read]
  rfl

theorem wholeChars_numeral (n : Int) : Numeral (wholeChars n) := by
  refine ⟨⟨_, ofChars?_wholeChars n⟩, fun c present => ?_⟩
  have digit := fun present => isBare_digit (digits_toDigits n.natAbs c present)
  unfold wholeChars at present
  split at present
  · rcases List.mem_cons.mp present with rfl | inside
    · rfl
    · exact digit inside
  · exact digit present

def Bounded (n : Int) : Prop := wholeLow ≤ n ∧ n < wholeHigh

theorem value?_wholeLiteral {n : Int} (bounded : Bounded n) : (wholeLiteral n).value? = some (.whole n) := by
  have value : ((digitsValue (wholeLiteral n).whole : Nat) : Int) = n.natAbs := by
    rw [wholeLiteral, digitsValue_toDigits]
  obtain ⟨low, high⟩ := bounded
  by_cases negative : n < 0
  · have sizes : 0 < (n.natAbs : Int) ∧ wholeLow ≤ -(n.natAbs : Int) := ⟨by omega, by omega⟩
    have same : -(n.natAbs : Int) = n := by omega
    simp only [Literal.value?, value]
    rw [if_pos (by rfl), if_pos (by simp [wholeLiteral, negative]), if_pos sizes, same]
  · have size : (n.natAbs : Int) < wholeHigh := by omega
    have same : (n.natAbs : Int) = n := by omega
    simp only [Literal.value?, value]
    rw [if_pos (by rfl), if_neg (by simp [wholeLiteral, negative]), if_pos size, same]

end ToolGateway.Json
