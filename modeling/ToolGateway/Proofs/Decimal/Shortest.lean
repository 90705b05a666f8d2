import ToolGateway.Decimal.Shortest
import ToolGateway.Proofs.Decimal.Rounding

namespace ToolGateway.Decimal

def Magnitude.value (x : Magnitude) : ℚ := x.significand * 2 ^ x.exponent
def Digits.value (d : Digits) : ℚ := d.digits * 10 ^ d.power

def Interval.least (i : Interval) : ℚ := i.low * 2 ^ i.exponent
def Interval.most (i : Interval) : ℚ := i.high * 2 ^ i.exponent

-- The reals of the interval, with or without its ends.
def Interval.Holds (i : Interval) (v : ℚ) : Prop :=
  i.least ≤ v ∧ v ≤ i.most ∧ (i.closed = false → i.least < v ∧ v < i.most)

section
variable {f : Format} {tie : Tie} {x y : Magnitude} {i j : Interval} {d : Digits} {c : ℕ} {power : ℤ} {v : ℚ}

-- What a grid point and a binary number are both multiplied with to be compared as integers.
def scale (power exponent : ℤ) : ℚ := 10 ^ (-power).toNat * 2 ^ (-exponent).toNat

theorem scale_positive (power exponent : ℤ) : 0 < scale power exponent := by
  unfold scale
  positivity

theorem gridSide_scaled (c : ℕ) (power exponent : ℤ) :
    (gridSide c power exponent : ℚ) = c * 10 ^ power * scale power exponent := by
  unfold gridSide scale
  simp only [Nat.pow_eq]
  push_cast
  rw [← power_split (by decide : (10 : ℚ) ≠ 0) power]
  ring

theorem realSide_scaled (q : ℕ) (power exponent : ℤ) :
    (realSide q power exponent : ℚ) = q * 2 ^ exponent * scale power exponent := by
  unfold realSide scale
  simp only [Nat.pow_eq]
  push_cast
  rw [← power_split two_ne_zero exponent]
  ring

theorem real_le_grid (q c : ℕ) (power exponent : ℤ) : realSide q power exponent ≤ gridSide c power exponent ↔
    (q : ℚ) * 2 ^ exponent ≤ c * 10 ^ power := by
  rw [← Nat.cast_le (α := ℚ), gridSide_scaled, realSide_scaled, mul_le_mul_iff_left₀ (scale_positive power exponent)]

theorem grid_le_real (c q : ℕ) (power exponent : ℤ) : gridSide c power exponent ≤ realSide q power exponent ↔
    (c : ℚ) * 10 ^ power ≤ q * 2 ^ exponent := by
  rw [← Nat.cast_le (α := ℚ), gridSide_scaled, realSide_scaled, mul_le_mul_iff_left₀ (scale_positive power exponent)]

theorem holds_exact : i.holds c power = true ↔ i.Holds (c * 10 ^ power) := by
  have above := real_le_grid i.low c power i.exponent
  have below := grid_le_real c i.high power i.exponent
  have inside := not_congr (grid_le_real c i.low power i.exponent)
  have outside := not_congr (real_le_grid i.high c power i.exponent)
  rw [not_le, not_le] at inside outside
  unfold Interval.holds Interval.Holds Interval.least Interval.most
  cases i.closed with
  | true =>
    simp [above, below]
  | false =>
    simp only [Bool.false_eq_true, if_false, Bool.and_eq_true, decide_eq_true_eq, inside, outside, forall_const]
    exact ⟨fun h => ⟨h.1.le, h.2.le, h⟩, fun h => h.2.2⟩

theorem pick_holds (picked : i.pick tie power = some d) : i.Holds d.value := by
  have either {n : ℕ} {up : Prop} [Decidable up] (below : i.holds n power = true)
      (above : i.holds (n + 1) power = true) : i.Holds (Digits.mk (if up then n + 1 else n) power).value := by
    split
    · exact holds_exact.mp above
    · exact holds_exact.mp below
  unfold Interval.pick at picked
  simp only at picked
  split at picked
  · cases picked
  · rename_i below _
    cases picked
    exact holds_exact.mp below
  · rename_i _ above
    cases picked
    exact holds_exact.mp above
  · rename_i below above
    cases picked
    exact either below above

theorem neighbours_around {below : ℕ} (i : Interval) (power : ℤ)
    (floor : below = realSide i.centre power i.exponent / gridSide 1 power i.exponent) :
    (below : ℚ) * 10 ^ power ≤ i.centre * 2 ^ i.exponent ∧
      (i.centre : ℚ) * 2 ^ i.exponent ≤ (below + 1 : ℕ) * 10 ^ power := by
  have spacing : 0 < gridSide 1 power i.exponent := by
    apply (Nat.cast_pos (α := ℚ)).mp
    rw [gridSide_scaled]
    have := scale_positive power i.exponent
    positivity
  have multiple (c : ℕ) : c * gridSide 1 power i.exponent = gridSide c power i.exponent := by
    simp [gridSide, Nat.mul_assoc]
  constructor
  · apply (grid_le_real _ _ _ _).mp
    rw [← multiple, floor]
    exact Nat.div_mul_le_self _ _
  · apply (real_le_grid _ _ _ _).mp
    rw [← multiple, Nat.mul_comm, floor]
    exact (Nat.lt_mul_div_succ _ spacing).le

theorem pick_none {below : ℕ} (floor : below = realSide i.centre power i.exponent / gridSide 1 power i.exponent)
    (nothing : i.pick tie power = none) : ¬ i.Holds (below * 10 ^ power) ∧ ¬ i.Holds ((below + 1 : ℕ) * 10 ^ power) := by
  have outside {c : ℕ} (refused : i.holds c power = false) : ¬ i.Holds (c * 10 ^ power) :=
    fun holds => Bool.false_ne_true (refused.symm.trans (holds_exact.mpr holds))
  unfold Interval.pick at nothing
  simp only [← floor] at nothing
  split at nothing
  · rename_i one two
    exact ⟨outside one, outside two⟩
  all_goals cases nothing

-- An interval that is wider than the grid's spacing holds one of its centre's neighbours.
theorem pick_some (low : i.low < i.centre) (high : i.centre < i.high)
    (wide : (10 : ℚ) ^ power < i.most - i.least) : i.pick tie power ≠ none := by
  intro nothing
  obtain ⟨left, right⟩ := neighbours_around i power rfl
  obtain ⟨missedLeft, missedRight⟩ := pick_none rfl nothing
  set below := realSide i.centre power i.exponent / gridSide 1 power i.exponent
  have unit : (0 : ℚ) < 2 ^ i.exponent := by positivity
  have lowCentre : i.least < i.centre * 2 ^ i.exponent := by
    unfold Interval.least
    gcongr
  have highCentre : i.centre * 2 ^ i.exponent < i.most := by
    unfold Interval.most
    gcongr
  -- Each of the two is cut off at its own end, so the spacing is at least the width.
  have cutLow : (below : ℚ) * 10 ^ power ≤ i.least := by
    by_contra inside
    have above := lt_of_not_ge inside
    exact missedLeft ⟨above.le, by linarith, fun _ => ⟨above, by linarith⟩⟩
  have cutHigh : i.most ≤ (below + 1 : ℕ) * 10 ^ power := by
    by_contra inside
    have under := lt_of_not_ge inside
    exact missedRight ⟨by linarith, under.le, fun _ => ⟨by linarith, under⟩⟩
  push_cast at cutHigh
  linarith

theorem value_ratio (x : Magnitude) : x.value * x.denominator = x.numerator := by
  unfold Magnitude.value Magnitude.denominator Magnitude.numerator
  simp only [Nat.pow_eq]
  push_cast
  rw [← power_split two_ne_zero x.exponent]
  ring

theorem lt_digits (n : ℕ) : n < 10 ^ (Nat.toDigits 10 n).length :=
  (Nat.length_toDigits_le_iff (by decide) (List.length_pos_of_ne_nil Nat.toDigits_ne_nil)).mp (le_refl _)

theorem digits_le {n : ℕ} (positive : 1 ≤ n) : 10 ^ ((Nat.toDigits 10 n).length - 1) ≤ n := by
  by_cases single : (Nat.toDigits 10 n).length ≤ 1
  · rw [Nat.sub_eq_zero_of_le single]
    exact positive
  · by_contra more
    have shorter := (Nat.length_toDigits_le_iff (by decide) (by omega)).mpr (lt_of_not_ge more)
    omega

theorem leadingPower_le (nonzero : x.significand ≠ 0) : (10 : ℚ) ^ leadingPower x ≤ x.value := by
  have bottom : (0 : ℚ) < x.denominator := by exact_mod_cast denominator_positive x
  have top := numerator_positive nonzero
  apply (mul_le_mul_iff_left₀ bottom).mp
  rw [value_ratio]
  unfold leadingPower
  split
  · rename_i large
    have digits := digits_le ((Nat.one_le_div_iff (denominator_positive x)).mpr large)
    have product := (Nat.mul_le_mul_right x.denominator digits).trans (Nat.div_mul_le_self _ _)
    have some_digit := List.length_pos_of_ne_nil (Nat.toDigits_ne_nil (b := 10) (n := x.numerator / x.denominator))
    have whole : ((Nat.toDigits 10 (x.numerator / x.denominator)).length : ℤ) - 1 =
        ((Nat.toDigits 10 (x.numerator / x.denominator)).length - 1 : ℕ) := by omega
    rw [whole, zpow_natCast]
    exact_mod_cast product
  · rename_i small
    have under := (Nat.div_lt_iff_lt_mul top).mp (lt_digits ((x.denominator - 1) / x.numerator))
    have product : x.denominator ≤ 10 ^ (Nat.toDigits 10 ((x.denominator - 1) / x.numerator)).length * x.numerator := by
      omega
    rw [zpow_neg, zpow_natCast, inv_mul_le_iff₀ (by positivity)]
    exact_mod_cast product

-- Seventeen digits are one more than the precision is worth.
theorem pick_last (precise : f.precision ≤ 53) (fits : x.Fits f) (nonzero : x.significand ≠ 0) :
    (interval f x).pick tie (leadingPower x - 16) ≠ none := by
  have lead := leadingPower_le nonzero
  have unit : (0 : ℚ) < 2 ^ x.exponent := by positivity
  have quarter : (2 : ℚ) ^ (x.exponent - 2) = 2 ^ x.exponent / 4 := by
    rw [zpow_sub₀ two_ne_zero]
    norm_num
  have spacing : (10 : ℚ) ^ (leadingPower x - 16) = 10 ^ leadingPower x / 10 ^ 16 := by
    rw [zpow_sub₀ (by decide)]
    norm_cast
  unfold Magnitude.value at lead
  apply pick_some
  · unfold interval
    simp only
    split <;> omega
  · exact Nat.lt_add_of_pos_right (by decide)
  · unfold Interval.most Interval.least interval
    simp only [quarter, spacing]
    have bits : 2 ^ f.precision ≤ 2 ^ 53 := Nat.pow_le_pow_right (by decide) precise
    have positive : 1 ≤ x.significand := Nat.one_le_iff_ne_zero.mpr nonzero
    split
    · rename_i tight
      have half : 2 ^ (f.precision - 1) ≤ 2 ^ 52 := Nat.pow_le_pow_right (by decide) (by omega)
      rw [← Nat.pow_eq, ← tight.1] at half
      have size : (x.significand : ℚ) ≤ 2 ^ 52 := by exact_mod_cast half
      push_cast [Nat.cast_sub (show 1 ≤ 4 * x.significand by omega)]
      nlinarith
    · have size : (x.significand : ℚ) < 2 ^ 53 := by exact_mod_cast fits.below.trans_le bits
      push_cast [Nat.cast_sub (show 2 ≤ 4 * x.significand by omega)]
      nlinarith

theorem shortest_cases (f : Format) (tie : Tie) (x : Magnitude) :
    ((∀ k < mostDigits, (interval f x).pick tie (leadingPower x - k) = none) ∧ shortest f tie x = ⟨0, 0⟩) ∨
      (interval f x).Holds (shortest f tie x).value := by
  unfold shortest
  simp only
  cases found : (List.range mostDigits).findSome? fun (k : ℕ) => (interval f x).pick tie (leadingPower x - k) with
  | none =>
    have every := List.findSome?_eq_none_iff.mp found
    exact .inl ⟨fun k less => every k (List.mem_range.mpr less), rfl⟩
  | some d =>
    obtain ⟨k, _, picked⟩ := List.exists_of_findSome?_eq_some found
    exact .inr (pick_holds picked)

theorem shortest_holds (precise : f.precision ≤ 53) (fits : x.Fits f) (nonzero : x.significand ≠ 0) :
    (interval f x).Holds (shortest f tie x).value := by
  rcases shortest_cases f tie x with ⟨none, _⟩ | holds
  · exact absurd (none 16 (by decide)) (pick_last precise fits nonzero)
  · exact holds

theorem interval_positive (nonzero : x.significand ≠ 0) (holds : (interval f x).Holds v) : 0 < v := by
  have low : 0 < (interval f x).low := by
    unfold interval
    simp only
    split <;> omega
  have least : 0 < (interval f x).least := by
    unfold Interval.least
    positivity
  exact least.trans_le holds.1

-- Without a pick there would be no digits; the layout of such a text is a number all the same.
theorem shortest_nonzero (f : Format) (tie : Tie) (nonzero : x.significand ≠ 0) :
    shortest f tie x = ⟨0, 0⟩ ∨ (shortest f tie x).digits ≠ 0 := by
  rcases shortest_cases f tie x with ⟨_, none⟩ | holds
  · exact .inl none
  · right
    intro zero
    have positive := interval_positive nonzero holds
    simp [Digits.value, zero] at positive

-- Two intervals that share a real, the second one's unit no finer: their ends do not pass each other, and meet
-- only if both belong to them.
theorem shared_ends {t : ℕ} (finer : j.exponent = i.exponent + t) (one : i.Holds v) (two : j.Holds v) :
    j.low * 2 ^ t ≤ i.high ∧ (j.low * 2 ^ t = i.high → i.closed = true ∧ j.closed = true) := by
  have unit : (0 : ℚ) < 2 ^ i.exponent := by positivity
  have low : j.least = (j.low * 2 ^ t : ℕ) * 2 ^ i.exponent := by
    unfold Interval.least
    rw [finer, zpow_add₀ two_ne_zero, zpow_natCast]
    push_cast
    ring
  constructor
  · apply (Nat.cast_le (α := ℚ)).mp
    apply (mul_le_mul_iff_left₀ unit).mp
    rw [← low]
    exact two.1.trans one.2.1
  · intro meet
    have same : j.least = i.most := by rw [low, meet, Interval.most]
    constructor
    · cases ends : i.closed with
      | true => rfl
      | false =>
        have := (one.2.2 ends).2
        have := two.1
        linarith
    · cases ends : j.closed with
      | true => rfl
      | false =>
        have := (two.2.2 ends).1
        have := one.2.1
        linarith

theorem before_apart (precise : 2 ≤ f.precision) (fits : x.Fits f) (other : y.Fits f)
    (before : x.exponent < y.exponent ∨ x.exponent = y.exponent ∧ x.significand < y.significand)
    (one : (interval f x).Holds v) : ¬ (interval f y).Holds v := by
  intro two
  obtain ⟨t, finer⟩ : ∃ t : ℕ, y.exponent = x.exponent + t := ⟨(y.exponent - x.exponent).toNat, by omega⟩
  obtain ⟨ends, meet⟩ := shared_ends (t := t) (by simp only [interval]; omega) one two
  simp only [interval, decide_eq_true_eq, Nat.pow_eq] at ends meet
  rcases before with coarser | ⟨same, less⟩
  · -- The larger one has all its bits; at their least it is even, and the largest below it is odd.
    have above : f.least < y.exponent := lt_of_le_of_lt fits.unit coarser
    have leading := other.leading above
    have below := fits.below
    obtain ⟨half, bits⟩ : ∃ half, f.precision = half + 2 := ⟨f.precision - 2, by omega⟩
    have powers : 2 ^ f.precision = 4 * 2 ^ half ∧ 2 ^ (f.precision - 1) = 2 * 2 ^ half := by
      rw [bits, show half + 2 - 1 = half + 1 by omega, Nat.pow_succ, Nat.pow_succ]
      omega
    have doubled (low : ℕ) : low * 2 ≤ low * 2 ^ t :=
      Nat.mul_le_mul_left low (Nat.le_self_pow (by omega) 2)
    split at ends
    · rename_i tight
      have twice := doubled (4 * y.significand - 1)
      rw [if_pos tight] at meet
      omega
    · rename_i loose
      have twice := doubled (4 * y.significand - 2)
      have more : y.significand ≠ 2 ^ (f.precision - 1) := fun equal => loose ⟨equal, above⟩
      omega
  · have steps : t = 0 := by omega
    subst steps
    simp only [Nat.pow_zero, Nat.mul_one] at ends meet
    split at ends <;> split at meet <;> omega

theorem intervals_apart (precise : 2 ≤ f.precision) (fits : x.Fits f) (other : y.Fits f)
    (one : (interval f x).Holds v) (two : (interval f y).Holds v) : x = y := by
  have forward := fun before => before_apart precise fits other before one two
  have backward := fun before => before_apart precise other fits before two one
  have sameUnit : x.exponent = y.exponent := by
    rcases lt_trichotomy x.exponent y.exponent with less | equal | more
    · exact absurd (.inl less) forward
    · exact equal
    · exact absurd (.inl more) backward
  have sameBits : x.significand = y.significand := by
    rcases lt_trichotomy x.significand y.significand with less | equal | more
    · exact absurd (.inr ⟨sameUnit, less⟩) forward
    · exact equal
    · exact absurd (.inr ⟨sameUnit.symm, more⟩) backward
  cases x
  cases y
  cases sameBits
  cases sameUnit
  rfl

theorem shortest_apart (wide : 2 ≤ f.precision) (precise : f.precision ≤ 53) (fits : x.Fits f) (other : y.Fits f)
    (some_x : x.significand ≠ 0) (some_y : y.significand ≠ 0)
    (same : (shortest f tie x).value = (shortest f tie y).value) : x = y :=
  intervals_apart wide fits other (shortest_holds precise fits some_x) (same ▸ shortest_holds precise other some_y)

end

end ToolGateway.Decimal
