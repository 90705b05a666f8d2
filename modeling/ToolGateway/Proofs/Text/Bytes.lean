import Mathlib
import ToolGateway.Text.Search

namespace ToolGateway.Text

def byteLength (s : List Char) : Nat := (String.ofList s).utf8ByteSize

-- The text before and behind a position; nothing when it lies inside a character or behind the end.
def splitAt? : Nat → List Char → Option (List Char × List Char)
  | 0, s => some ([], s)
  | _ + 1, [] => none
  | count + 1, c :: rest =>
    if c.utf8Size ≤ count + 1 then
      (splitAt? (count + 1 - c.utf8Size) rest).map fun (before, after) => (c :: before, after)
    else none

def slice? (start stop : Nat) (s : List Char) : Option (List Char) :=
  if stop < start then none
  else ((splitAt? stop s).bind fun (front, _) => splitAt? start front).map Prod.snd

def find? (pattern s : List Char) : Option Nat := (cut pattern s).map fun (before, _) => byteLength before

def findLast? (c : Char) (s : List Char) : Option Nat := (cutLast c s).map fun (before, _) => byteLength before

section
variable {s before after front back : List Char} {c d : Char}

theorem byteLength_append (s more : List Char) : byteLength (s ++ more) = byteLength s + byteLength more := by
  simp [byteLength]

theorem byteLength_cons (c : Char) (s : List Char) : byteLength (c :: s) = c.utf8Size + byteLength s := by
  simp [byteLength]

theorem byteLength_nil : byteLength [] = 0 := by simp [byteLength]

theorem splitAt?_append (before after : List Char) :
    splitAt? (byteLength before) (before ++ after) = some (before, after) := by
  induction before with
  | nil => rw [List.nil_append, byteLength_nil, splitAt?]
  | cons c rest ih =>
    have wide := c.utf8Size_pos
    obtain ⟨count, more⟩ : ∃ count, byteLength (c :: rest) = count + 1 := by
      refine ⟨byteLength (c :: rest) - 1, ?_⟩
      rw [byteLength_cons]
      omega
    have left : count + 1 - c.utf8Size = byteLength rest := by
      rw [← more, byteLength_cons]
      omega
    have fits : c.utf8Size ≤ count + 1 := by
      rw [← more, byteLength_cons]
      omega
    rw [more, List.cons_append, splitAt?, if_pos fits, left, ih]
    rfl

theorem splitAt?_exact {position : Nat} :
    splitAt? position s = some (before, after) ↔ s = before ++ after ∧ byteLength before = position := by
  constructor
  · intro split
    induction s generalizing position before with
    | nil =>
      cases position with
      | zero => cases split; exact ⟨rfl, rfl⟩
      | succ count => cases split
    | cons c rest ih =>
      cases position with
      | zero => cases split; exact ⟨rfl, rfl⟩
      | succ count =>
        rw [splitAt?] at split
        split at split
        · obtain ⟨⟨front, behind⟩, inner, same⟩ := Option.map_eq_some_iff.mp split
          cases same
          obtain ⟨rfl, reached⟩ := ih inner
          refine ⟨rfl, ?_⟩
          rw [byteLength_cons, reached]
          omega
        · cases split
  · rintro ⟨rfl, rfl⟩
    exact splitAt?_append before after

-- A slice exists exactly where both positions stand between characters and in their order.
theorem slice?_exact {start stop : Nat} {piece : List Char} :
    slice? start stop s = some piece ↔
      ∃ before after, s = before ++ (piece ++ after) ∧ byteLength before = start ∧ start + byteLength piece = stop := by
  unfold slice?
  constructor
  · intro cut
    split at cut
    · cases cut
    · obtain ⟨⟨before, rest⟩, split, rfl⟩ := Option.map_eq_some_iff.mp cut
      obtain ⟨⟨front, after⟩, ended, began⟩ := Option.bind_eq_some_iff.mp split
      obtain ⟨rfl, stopped⟩ := splitAt?_exact.mp ended
      obtain ⟨rfl, started⟩ := splitAt?_exact.mp began
      refine ⟨before, after, List.append_assoc .., started, ?_⟩
      rw [← stopped, byteLength_append, started]
  · rintro ⟨before, after, rfl, rfl, rfl⟩
    have ended := splitAt?_append (before ++ piece) after
    rw [byteLength_append, List.append_assoc] at ended
    rw [if_neg (by omega), ended, Option.bind_some]
    simp only [splitAt?_append, Option.map_some]

theorem cut_single (absent : c ∉ before) (after : List Char) :
    cut [c] (before ++ c :: after) = some (before, after) := by
  induction before with
  | nil => simp [cut]
  | cons d rest ih =>
    have other : d ≠ c := fun same => absent (same ▸ List.mem_cons_self)
    have inside := ih fun present => absent (List.mem_cons_of_mem d present)
    simp [cut, inside, Ne.symm other]

theorem cut_single_none (absent : c ∉ s) : cut [c] s = none := by
  cases found : cut [c] s with
  | none => rfl
  | some parts =>
    apply absurd _ absent
    rw [cut_eq found]
    simp

theorem cutLast_single (absent : c ∉ after) : cutLast c (before ++ c :: after) = some (before, after) := by
  have passed : ∀ d ∈ after.reverse, (d != c) = true := by
    intro d present
    rw [bne_iff_ne]
    rintro rfl
    exact absent (List.mem_reverse.mp present)
  have turned : (before ++ c :: after).reverse = after.reverse ++ c :: before.reverse := by simp
  rw [cutLast, turned, List.takeWhile_append_of_pos passed, List.dropWhile_append_of_pos passed]
  simp

theorem cutLast_none (absent : c ∉ s) : cutLast c s = none := by
  cases found : cutLast c s with
  | none => rfl
  | some parts =>
    apply absurd _ absent
    rw [cutLast_eq found]
    simp

theorem last_split (present : c ∈ s) : ∃ before after, s = before ++ c :: after ∧ c ∉ after := by
  obtain ⟨after, before, turned, absent⟩ := List.eq_append_cons_of_mem (List.mem_reverse.mpr present)
  refine ⟨before.reverse, after.reverse, ?_, fun inside => absent (List.mem_reverse.mp inside)⟩
  have whole := congrArg List.reverse turned
  simpa using whole

end

end ToolGateway.Text
