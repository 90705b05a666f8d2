import Mathlib
import ToolGateway.Decimal.Scaled

namespace ToolGateway.Decimal

structure Magnitude.Fits (f : Format) (x : Magnitude) : Prop where
  unit : f.least ≤ x.exponent
  below : x.significand < 2 ^ f.precision
  leading : f.least < x.exponent → 2 ^ (f.precision - 1) ≤ x.significand

theorem power_split {b : ℚ} (nonzero : b ≠ 0) (e : ℤ) : b ^ e * b ^ (-e).toNat = b ^ e.toNat := by
  have whole : e + ((-e).toNat : ℤ) = (e.toNat : ℤ) := by omega
  rw [← zpow_natCast, ← zpow_add₀ nonzero, whole, zpow_natCast]

section
variable {f : Format} {x y : Magnitude} {n d a : ℕ}

theorem le_divideEven (positive : 0 < d) (least : a * d ≤ n) : a ≤ divideEven n d := by
  have quotient : a ≤ n / d := (Nat.le_div_iff_mul_le positive).mpr least
  unfold divideEven
  split <;> omega

theorem divideEven_le (positive : 0 < d) (most : n ≤ a * d) : divideEven n d ≤ a := by
  have quotient : n / d ≤ a := Nat.div_le_of_le_mul (by rwa [Nat.mul_comm])
  have whole := Nat.div_add_mod n d
  unfold divideEven
  split
  · exact quotient
  · rename_i upward
    -- A remainder is left, so the quotient itself is below.
    have rest : 0 < n % d := by omega
    have : n / d ≠ a := by
      rintro rfl
      rw [Nat.mul_comm] at most
      omega
    omega

theorem log2_bounds (positive : 0 < n) : (2 : ℚ) ^ (n.log2 : ℤ) ≤ n ∧ (n : ℚ) < 2 ^ ((n.log2 : ℤ) + 1) := by
  have low := Nat.log2_self_le positive.ne'
  have high : n < 2 ^ (n.log2 + 1) := Nat.lt_log2_self
  exact ⟨by exact_mod_cast low, by exact_mod_cast high⟩

theorem unit_sides (a n d : ℕ) (unit : ℤ) :
    ((a * (d * Nat.pow 2 unit.toNat) : ℕ) : ℚ) = a * 2 ^ unit * d * 2 ^ (-unit).toNat ∧
      ((n * Nat.pow 2 (-unit).toNat : ℕ) : ℚ) = n * 2 ^ (-unit).toNat := by
  constructor
  · rw [Nat.pow_eq]
    push_cast
    rw [← power_split two_ne_zero unit]
    ring
  · rw [Nat.pow_eq]
    push_cast
    rfl

theorem unit_le (a n d : ℕ) (unit : ℤ) :
    a * (d * Nat.pow 2 unit.toNat) ≤ n * Nat.pow 2 (-unit).toNat ↔ (a : ℚ) * 2 ^ unit * d ≤ n := by
  have factor : (0 : ℚ) < 2 ^ (-unit).toNat := by positivity
  rw [← Nat.cast_le (α := ℚ), (unit_sides a n d unit).1, (unit_sides a n d unit).2, mul_le_mul_iff_left₀ factor]

theorem le_unit (a n d : ℕ) (unit : ℤ) :
    n * Nat.pow 2 (-unit).toNat ≤ a * (d * Nat.pow 2 unit.toNat) ↔ (n : ℚ) ≤ a * 2 ^ unit * d := by
  have factor : (0 : ℚ) < 2 ^ (-unit).toNat := by positivity
  rw [← Nat.cast_le (α := ℚ), (unit_sides a n d unit).1, (unit_sides a n d unit).2, mul_le_mul_iff_left₀ factor]

theorem leadingExponent_bounds (some_n : 0 < n) (positive : 0 < d) :
    (2 : ℚ) ^ leadingExponent n d * d ≤ n ∧ (n : ℚ) < 2 ^ (leadingExponent n d + 1) * d := by
  obtain ⟨lowN, highN⟩ := log2_bounds some_n
  obtain ⟨lowD, highD⟩ := log2_bounds positive
  set guess : ℤ := (n.log2 : ℤ) - d.log2 with guessed
  have below : (n : ℚ) < 2 ^ (guess + 1) * d := by
    calc (n : ℚ) < 2 ^ ((n.log2 : ℤ) + 1) := highN
      _ = 2 ^ (guess + 1) * 2 ^ (d.log2 : ℤ) := by rw [← zpow_add₀ two_ne_zero]; congr 1; omega
      _ ≤ 2 ^ (guess + 1) * d := by gcongr
  have above : (2 : ℚ) ^ (guess - 1) * d ≤ n := by
    calc (2 : ℚ) ^ (guess - 1) * d ≤ 2 ^ (guess - 1) * 2 ^ ((d.log2 : ℤ) + 1) := by gcongr
      _ = 2 ^ (n.log2 : ℤ) := by rw [← zpow_add₀ two_ne_zero]; congr 1; omega
      _ ≤ n := lowN
  have tried := unit_le 1 n d guess
  rw [Nat.one_mul, Nat.cast_one, one_mul] at tried
  unfold leadingExponent
  simp only [← guessed]
  split
  · rename_i least
    exact ⟨tried.mp least, below⟩
  · rename_i short
    have under := lt_of_not_ge (mt tried.mpr short)
    exact ⟨above, by rwa [sub_add_cancel]⟩

-- Over the unit that is chosen, a quotient rounds to at most one more than the precision's bits hold.
theorem significand_bounds (some_n : 0 < n) (positive : 0 < d) (precise : 1 ≤ f.precision) {unit : ℤ}
    (chosen : unit = max f.least (leadingExponent n d - f.precision + 1)) :
    divideEven (n * Nat.pow 2 (-unit).toNat) (d * Nat.pow 2 unit.toNat) ≤ 2 ^ f.precision ∧
      (f.least < unit →
        2 ^ (f.precision - 1) ≤ divideEven (n * Nat.pow 2 (-unit).toNat) (d * Nat.pow 2 unit.toNat)) := by
  obtain ⟨low, high⟩ := leadingExponent_bounds some_n positive
  have divisor : 0 < d * Nat.pow 2 unit.toNat := Nat.mul_pos positive (Nat.two_pow_pos _)
  constructor
  · apply divideEven_le divisor
    apply (le_unit _ n d unit).mpr
    push_cast
    rw [← zpow_natCast, ← zpow_add₀ two_ne_zero]
    have wide : (2 : ℚ) ^ (leadingExponent n d + 1) ≤ 2 ^ ((f.precision : ℤ) + unit) :=
      zpow_le_zpow_right₀ one_le_two (by omega)
    calc (n : ℚ) ≤ 2 ^ (leadingExponent n d + 1) * d := high.le
      _ ≤ 2 ^ ((f.precision : ℤ) + unit) * d := by gcongr
  · intro above
    apply le_divideEven divisor
    apply (unit_le _ n d unit).mpr
    push_cast
    rw [← zpow_natCast, ← zpow_add₀ two_ne_zero]
    have narrow : (2 : ℚ) ^ (((f.precision - 1 : ℕ) : ℤ) + unit) ≤ 2 ^ leadingExponent n d :=
      zpow_le_zpow_right₀ one_le_two (by omega)
    calc (2 : ℚ) ^ (((f.precision - 1 : ℕ) : ℤ) + unit) * d ≤ 2 ^ leadingExponent n d * d := by gcongr
      _ ≤ n := low

theorem zero_fits (f : Format) : Magnitude.Fits f ⟨0, f.least⟩ :=
  ⟨le_refl _, Nat.two_pow_pos _, fun less => absurd less (lt_irrefl _)⟩

theorem round_fits (positive : 0 < d) (precise : 1 ≤ f.precision) (rounded : round f n d = some x) : x.Fits f := by
  unfold round at rounded
  split at rounded
  · cases rounded
    exact zero_fits f
  · rename_i some_n
    obtain ⟨most, least⟩ := significand_bounds (Nat.pos_of_ne_zero some_n) positive precise rfl
    obtain ⟨_, kept⟩ := Option.ite_none_left_eq_some.mp rounded
    cases kept
    split
    · refine ⟨?_, Nat.pow_lt_pow_right (by decide) (by omega), fun _ => le_refl _⟩
      show f.least ≤ max f.least (leadingExponent n d - f.precision + 1) + 1
      omega
    · rename_i below
      exact ⟨le_max_left _ _, Nat.lt_of_le_of_ne most below, least⟩

theorem denominator_positive (x : Magnitude) : 0 < x.denominator := Nat.two_pow_pos _

theorem numerator_positive (nonzero : x.significand ≠ 0) : 0 < x.numerator :=
  Nat.mul_pos (Nat.pos_of_ne_zero nonzero) (Nat.two_pow_pos _)

theorem times_fits (precise : 1 ≤ f.precision) (product : x.times f y = some z) : z.Fits f :=
  round_fits (Nat.mul_pos (denominator_positive x) (denominator_positive y)) precise product

theorem over_fits (precise : 1 ≤ f.precision) (nonzero : y.significand ≠ 0) (quotient : x.over f y = some z) : z.Fits f :=
  round_fits (Nat.mul_pos (denominator_positive x) (numerator_positive nonzero)) precise quotient

theorem tenPower_nonzero : ∀ k ≤ lastPower, (tenPower k).significand ≠ 0 := by decide +kernel

-- Whatever a number is read from, its magnitude is one of a double.
theorem scaled_fits {significand : ℕ} {power : ℤ} (read : scaled significand power = some x) : x.Fits double := by
  unfold scaled at read
  obtain ⟨start, rounded, rest⟩ := Option.bind_eq_some_iff.mp read
  have fits := round_fits (by decide) (by decide) rounded
  split at rest
  · cases rest
    exact fits
  · split at rest
    · cases rest
    · split at rest
      · exact times_fits (by decide) rest
      · apply over_fits (by decide) _ rest
        apply tenPower_nonzero
        have steps := Nat.div_add_mod ((-power).toNat - 1) lastPower
        have rest := Nat.mod_lt ((-power).toNat - 1) (show 0 < lastPower by decide)
        rw [Nat.mul_comm] at steps
        omega

end

end ToolGateway.Decimal
