import Mathlib
import ToolGateway.Text.LowerCase
import ToolGateway.Proofs.Text.Trim

namespace ToolGateway.Text

def Ascii (s : List Char) : Prop := ∀ c ∈ s, c.toNat < 0x80

instance (s : List Char) : Decidable (Ascii s) := List.decidableBAll (fun c : Char => c.toNat < 0x80) s

-- All ways to lower a text: a capital sigma has two small forms, and its place in a word tells which is meant.
inductive Lowers : List Char → List Char → Prop where
  | nil : Lowers [] []
  | char (c : Char) (rest : Lowers s low) : Lowers (c :: s) (lowerChar c ++ low)
  | final (rest : Lowers s low) : Lowers (capitalSigma :: s) (finalSigma :: low)

def LowerRange.least (range : LowerRange) : Nat := (range.first + range.shift).toNat

def LowerRange.most (range : LowerRange) : Nat := (range.last + range.shift).toNat

-- None of the first range's forms is a character of the other: they lie apart, or between its characters.
def LowerRange.misses (range other : LowerRange) : Bool :=
  range.most.blt other.first || other.last.blt range.least ||
    (other.stride.beq 2 && (range.stride.beq 2 || range.least.beq range.most) &&
      ((range.least + other.first) % 2).beq 1)

theorem forms_missed : (lowerRanges.all fun range => lowerRanges.all range.misses) = true := by decide +kernel

theorem forms_bounded : ∀ range ∈ lowerRanges, 0 ≤ range.first + range.shift ∧
    (range.most < 0x130 ∨ 0x130 < range.least) ∧
    (range.most < 0xD800 ∨ 0xE000 ≤ range.least ∧ range.most < 0x110000) := by decide +kernel

section
variable {range other : LowerRange} {code : Nat} {s t low w before after : List Char} {c d : Char}

theorem ascii_every {p : Char → Prop} (every : ∀ n < 0x80, p (Char.ofNat n)) (ascii : c.toNat < 0x80) : p c := by
  have holds := every c.toNat ascii
  rwa [Char.ofNat_toNat] at holds

theorem toLower_foreign (foreign : 0x80 ≤ c.toNat) : c.toLower = c := by
  apply Char.toLower_eq_of_not_isUpper
  intro upper
  simp only [Char.isUpper, Bool.decide_and, Bool.and_eq_true, decide_eq_true_eq, UInt32.le_iff_toNat_le] at upper
  have last : c.toNat ≤ 'Z'.toNat := upper.2
  have code : 'Z'.toNat = 0x5A := rfl
  omega

theorem lowerChar_ascii (ascii : c.toNat < 0x80) : lowerChar c = [c.toLower] :=
  ascii_every (p := fun c => lowerChar c = [c.toLower]) (by decide +kernel) ascii

theorem LowerRange.covers_exact : range.covers code = true ↔
    (range.first ≤ code ∧ code ≤ range.last) ∧ (code - range.first) % range.stride = 0 := by
  simp [LowerRange.covers]

theorem form_bounded (covers : range.covers code = true) (forward : 0 ≤ range.first + range.shift) :
    (code + range.shift).toNat = range.least + (code - range.first) ∧ (code + range.shift).toNat ≤ range.most := by
  obtain ⟨⟨low, high⟩, -⟩ := LowerRange.covers_exact.mp covers
  simp only [LowerRange.least, LowerRange.most]
  omega

theorem form_code (listed : range ∈ lowerRanges) (covers : range.covers code = true) :
    (Char.ofNat (code + range.shift).toNat).toNat = (code + range.shift).toNat := by
  obtain ⟨forward, -, valid⟩ := forms_bounded range listed
  obtain ⟨place, high⟩ := form_bounded covers forward
  rw [Char.toNat_ofNat, if_pos (by simp only [Nat.isValidChar]; omega)]

theorem lowerChar_capitalSigma : lowerChar capitalSigma = [smallSigma] := by decide +kernel

theorem lowers_lowerAfter (before s : List Char) : Lowers s (lowerAfter before s) := by
  induction s generalizing before with
  | nil => exact .nil
  | cons c rest ih =>
    rw [lowerAfter]
    split
    · next sigma =>
      subst sigma
      rw [lowerSigma]
      split
      · exact .final (ih _)
      · rw [← lowerChar_capitalSigma]
        exact .char capitalSigma (ih _)
    · exact .char c (ih _)

theorem lowers_lowerChars (s : List Char) : Lowers s (lowerChars s) := lowers_lowerAfter [] s

theorem form_uncovered (covers : range.covers code = true) (forward : 0 ≤ range.first + range.shift)
    (misses : range.misses other = true) : ¬ other.covers (code + range.shift).toNat = true := by
  obtain ⟨place, high⟩ := form_bounded covers forward
  obtain ⟨-, stride⟩ := LowerRange.covers_exact.mp covers
  intro again
  obtain ⟨⟨first, last⟩, also⟩ := LowerRange.covers_exact.mp again
  simp only [LowerRange.misses, Bool.or_eq_true, Bool.and_eq_true, Nat.blt_eq, Nat.beq_eq] at misses
  rcases misses with (below | above) | ⟨⟨even, alternates⟩, odd⟩
  · omega
  · omega
  · rw [even] at also
    rcases alternates with alternates | single
    · rw [alternates] at stride
      omega
    · omega

-- No character is lowered twice.
theorem lowerChar_small (form : d ∈ lowerChar c) : lowerChar d = [d] := by
  unfold lowerChar at form
  split at form
  · rcases List.mem_pair.mp form with rfl | rfl
    · exact lowerChar_ascii (by decide)
    · decide +kernel
  · next undotted =>
    split at form
    · next uncovered =>
      obtain rfl := List.mem_singleton.mp form
      rw [lowerChar, if_neg undotted, uncovered]
    · next range found =>
      have listed := List.mem_of_find?_eq_some found
      have covers := List.find?_some found
      obtain ⟨forward, undotted, -⟩ := forms_bounded range listed
      obtain ⟨place, high⟩ := form_bounded covers forward
      obtain rfl := List.mem_singleton.mp form
      have missed : lowerRanges.find? (·.covers (c.toNat + range.shift).toNat) = none := by
        apply List.find?_eq_none.mpr
        intro other also
        exact form_uncovered covers forward (List.all_eq_true.mp (List.all_eq_true.mp forms_missed range listed) other also)
      rw [lowerChar, form_code listed covers, if_neg (by omega), missed]

theorem Lowers.small (lowers : Lowers s t) : ∀ d ∈ t, lowerChar d = [d] := by
  induction lowers with
  | nil => exact fun _ inside => nomatch inside
  | char c _ ih =>
    intro d inside
    rcases List.mem_append.mp inside with here | there
    · exact lowerChar_small here
    · exact ih d there
  | final _ ih => exact List.forall_mem_cons.mpr ⟨by decide +kernel, ih⟩

theorem lowerAfter_small (small : ∀ c ∈ s, lowerChar c = [c]) (before : List Char) : lowerAfter before s = s := by
  induction s generalizing before with
  | nil => rfl
  | cons c rest ih =>
    obtain ⟨here, there⟩ := List.forall_mem_cons.mp small
    have other : c ≠ capitalSigma := by
      rintro rfl
      rw [lowerChar_capitalSigma] at here
      exact absurd here (by decide)
    rw [lowerAfter, if_neg other, here, ih there]
    rfl

theorem lower_small {text : String} (small : ∀ c ∈ text.toList, lowerChar c = [c]) : lower text = text := by
  rw [lower, lowerChars, lowerAfter_small small, String.ofList_toList]

theorem small_lower (text : String) : ∀ c ∈ (lower text).toList, lowerChar c = [c] := by
  rw [lower, String.toList_ofList]
  exact (lowers_lowerChars text.toList).small

theorem lower_lower (text : String) : lower (lower text) = lower text := lower_small (small_lower text)

-- The case of ASCII letters is lost in lowering, and no blank has a case.
theorem lowerChar_toLower (c : Char) : lowerChar c.toLower = lowerChar c := by
  by_cases ascii : c.toNat < 0x80
  · have small : c.toLower.toNat < 0x80 :=
      ascii_every (p := fun c => c.toLower.toNat < 0x80) (by decide +kernel) ascii
    rw [lowerChar_ascii small, lowerChar_ascii ascii, Char.toLower_toLower_eq_toLower]
  · rw [toLower_foreign (Nat.not_lt.mp ascii)]

theorem Lowers.toLower (lowers : Lowers s low) : Lowers (s.map Char.toLower) low := by
  induction lowers with
  | nil => exact .nil
  | char c _ ih =>
    rw [← lowerChar_toLower]
    exact .char c.toLower ih
  | final _ ih => exact .final ih

end

end ToolGateway.Text
