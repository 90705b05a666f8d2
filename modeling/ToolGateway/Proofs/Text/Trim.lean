import ToolGateway.Text.Blank

namespace ToolGateway.Text

structure Trimmed (s : List Char) : Prop where
  head : ∀ c, s.head? = some c → isBlank c = false
  last : ∀ c, s.getLast? = some c → isBlank c = false

section
variable {s : List Char} {c : Char}

theorem trimStart_head (head : (trimStart s).head? = some c) : isBlank c = false := by
  have stop := List.head?_dropWhile_not isBlank s
  rw [trimStart] at head
  rw [head] at stop
  simpa using stop

theorem trimEnd_last (last : (trimEnd s).getLast? = some c) : isBlank c = false := by
  rw [trimEnd, List.getLast?_reverse] at last
  apply trimStart_head (s := s.reverse)
  exact last

theorem trimEnd_starts (s : List Char) : trimEnd s <+: s := by
  have dropped : (s.reverse.dropWhile isBlank) <:+ s.reverse := List.dropWhile_suffix isBlank
  have turned := List.reverse_prefix.mpr dropped
  rwa [List.reverse_reverse] at turned

theorem trimChars_infix (s : List Char) : trimChars s <:+: s := by
  apply List.IsInfix.trans (trimEnd_starts (trimStart s)).isInfix
  exact (List.dropWhile_suffix isBlank).isInfix

-- Cutting at the end leaves the start as it is.
theorem trimmed_trimChars (s : List Char) : Trimmed (trimChars s) := by
  constructor
  · intro c head
    obtain ⟨tail, whole⟩ := trimEnd_starts (trimStart s)
    apply trimStart_head (s := s)
    rw [← whole, List.head?_append]
    rw [trimChars] at head
    rw [head]
    rfl
  · intro c last
    exact trimEnd_last last

theorem trimStart_fixed (head : ∀ c, s.head? = some c → isBlank c = false) : trimStart s = s := by
  cases s with
  | nil => rfl
  | cons c rest =>
    have first : isBlank c = false := head c rfl
    simp [trimStart, first]

theorem Trimmed.fixed (trimmed : Trimmed s) : trimChars s = s := by
  have turned : ∀ c, s.reverse.head? = some c → isBlank c = false := by
    intro c head
    rw [List.head?_reverse] at head
    exact trimmed.last c head
  have ending : s.reverse.dropWhile isBlank = s.reverse := trimStart_fixed turned
  rw [trimChars, trimStart_fixed trimmed.head, trimEnd, ending, List.reverse_reverse]

-- A text without blank ends stays as it is among others: only what stands around it is trimmed.
theorem trimStart_front (head : ∀ c, s.head? = some c → isBlank c = false) (before : List Char) :
    trimStart (before ++ s) = trimStart before ++ s := by
  induction before with
  | nil => exact trimStart_fixed head
  | cons c rest ih =>
    cases blank : isBlank c with
    | true => simpa [trimStart, blank] using ih
    | false => simp [trimStart, blank]

theorem trimEnd_back (last : ∀ c, s.getLast? = some c → isBlank c = false) (after : List Char) :
    trimEnd (s ++ after) = s ++ trimEnd after := by
  have turned : ∀ c, s.reverse.head? = some c → isBlank c = false := by
    intro c head
    rw [List.head?_reverse] at head
    exact last c head
  have front := trimStart_front turned after.reverse
  rw [trimStart, trimStart] at front
  rw [trimEnd, trimEnd, List.reverse_append, front, List.reverse_append, List.reverse_reverse]

theorem Trimmed.between (trimmed : Trimmed s) (nonempty : s ≠ []) (before after : List Char) :
    trimChars (before ++ (s ++ after)) = trimStart before ++ (s ++ trimEnd after) := by
  have head : ∀ c, (s ++ after).head? = some c → isBlank c = false := by
    cases s with
    | nil => exact absurd rfl nonempty
    | cons d rest => exact trimmed.head
  have last : ∀ c, (trimStart before ++ s).getLast? = some c → isBlank c = false := by
    intro c ending
    have ends := List.getLast?_eq_some_getLast nonempty
    rw [List.getLast?_append, ends] at ending
    exact trimmed.last c (ends.trans ending)
  rw [trimChars, trimStart_front head, ← List.append_assoc, trimEnd_back last, List.append_assoc]

theorem trimEnd_blank {w : List Char} (blank : ∀ c ∈ w, isBlank c = true) : trimEnd w = [] :=
  trimEnd_append_blank blank []

theorem trimStart_blank {w : List Char} (blank : ∀ c ∈ w, isBlank c = true) : trimStart w = [] := by
  have none_left := trimStart_append_blank blank []
  rwa [List.append_nil] at none_left

theorem trimChars_blanks {before after : List Char} (blank₁ : ∀ c ∈ before, isBlank c = true)
    (blank₂ : ∀ c ∈ after, isBlank c = true) (s : List Char) : trimChars (before ++ (s ++ after)) = trimChars s := by
  rw [trimChars, trimStart_append_blank blank₁, trimStart, List.dropWhile_append, trimChars, trimStart]
  split
  · rename_i nothing
    rw [List.isEmpty_iff.mp nothing]
    exact congrArg trimEnd (trimStart_blank blank₂)
  · exact trimEnd_append_blank blank₂ _

theorem trimEnd_ends (s : List Char) : ∃ after, (∀ c ∈ after, isBlank c = true) ∧ s = trimEnd s ++ after := by
  refine ⟨(s.reverse.takeWhile isBlank).reverse, ?_, ?_⟩
  · intro c present
    exact List.all_eq_true.mp List.all_takeWhile c (List.mem_reverse.mp present)
  · rw [trimEnd, ← List.reverse_append, List.takeWhile_append_dropWhile, List.reverse_reverse]

theorem trimChars_ends (s : List Char) : ∃ before after, (∀ c ∈ before, isBlank c = true) ∧
    (∀ c ∈ after, isBlank c = true) ∧ s = before ++ (trimChars s ++ after) := by
  obtain ⟨after, blank, whole⟩ := trimEnd_ends (trimStart s)
  refine ⟨s.takeWhile isBlank, after, List.all_eq_true.mp List.all_takeWhile, blank, ?_⟩
  rw [trimChars, ← whole, trimStart, List.takeWhile_append_dropWhile]

theorem trim_trim (s : String) : trim (trim s) = trim s := by
  rw [trim, trim, String.toList_ofList, (trimmed_trimChars s.toList).fixed]

end

end ToolGateway.Text
