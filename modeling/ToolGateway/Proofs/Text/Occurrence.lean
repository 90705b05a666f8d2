import ToolGateway.Text.Search

namespace ToolGateway.Text

section
variable {pattern before after back rest : List Char} {c : Char}

theorem starts_across (start : pattern <+: back ++ rest) :
    pattern <+: back ∨ ∃ tail, tail ≠ [] ∧ pattern = back ++ tail ∧ tail <+: rest := by
  obtain ⟨more, whole⟩ := start
  rcases List.append_eq_append_iff.mp whole with ⟨left, rfl, _⟩ | ⟨tail, rfl, rfl⟩
  · exact .inl (List.prefix_append pattern left)
  · by_cases nothing : tail = []
    · subst nothing
      exact .inl ⟨[], by simp⟩
    · exact .inr ⟨tail, nothing, rfl, List.prefix_append tail more⟩

-- A character that the pattern has not keeps every occurrence on one side of it.
theorem infix_beside (foreign : c ∉ pattern) (found : pattern <:+: before ++ c :: after) :
    pattern <:+: before ∨ pattern <:+: after := by
  induction before with
  | nil =>
    rcases List.infix_cons_iff.mp found with start | later
    · rcases List.prefix_cons_iff.mp start with rfl | ⟨tail, rfl, _⟩
      · exact .inl List.nil_infix
      · exact absurd List.mem_cons_self foreign
    · exact .inr later
  | cons d front ih =>
    rcases List.infix_cons_iff.mp found with start | later
    · have across : pattern <+: (d :: front) ++ (c :: after) := start
      rcases starts_across across with inside | ⟨tail, some_left, rfl, reaches⟩
      · exact .inl inside.isInfix
      · rcases List.prefix_cons_iff.mp reaches with nothing | ⟨more, rfl, _⟩
        · exact absurd nothing some_left
        · apply absurd _ foreign
          simp
    · exact (ih later).imp_left List.infix_cons

theorem cut_start (pattern after : List Char) : cut pattern (pattern ++ after) = some ([], after) := by
  cases pattern with
  | nil => cases after <;> simp [cut]
  | cons c rest => simp [cut]

theorem cut_passes (early : ∀ front back, before = front ++ back → back ≠ [] → ¬ pattern <+: back ++ rest) :
    cut pattern (before ++ rest) = (cut pattern rest).map fun found => (before ++ found.1, found.2) := by
  induction before with
  | nil => simp
  | cons c tail ih =>
    have here : ¬ pattern <+: c :: (tail ++ rest) := early [] (c :: tail) rfl (List.cons_ne_nil c tail)
    have later := ih fun front back whole some_left => early (c :: front) back (by rw [whole]; rfl) some_left
    have unfolded : cut pattern (c :: (tail ++ rest)) =
        (cut pattern (tail ++ rest)).map fun found => (c :: found.1, found.2) := by
      rw [cut, if_neg fun start => here (List.isPrefixOf_iff_prefix.mp start)]
    rw [List.cons_append, unfolded, later, Option.map_map]
    rfl

theorem cut_first (absent : ¬ pattern <:+: before)
    (apart : ∀ front tail, front ≠ [] → tail ≠ [] → pattern = front ++ tail → front <:+ before → ¬ tail <+: pattern)
    (after : List Char) : cut pattern (before ++ (pattern ++ after)) = some (before, after) := by
  have early : ∀ front back, before = front ++ back → back ≠ [] → ¬ pattern <+: back ++ (pattern ++ after) := by
    intro front back whole some_left start
    have behind : back <:+ before := ⟨front, whole.symm⟩
    rcases starts_across start with inside | ⟨tail, some_tail, parts, reaches⟩
    · exact absent (inside.isInfix.trans behind.isInfix)
    · have short : tail.length ≤ pattern.length := by
        rw [parts, List.length_append]
        exact Nat.le_add_left _ _
      have again := List.prefix_of_prefix_length_le reaches (List.prefix_append pattern after) short
      exact apart back tail some_left some_tail parts behind again
  rw [cut_passes early, cut_start, Option.map_some, List.append_nil]

-- A separator whose last character is its only one of the kind cannot end shortly after another one has: it ends
-- there too, or begins no earlier.
theorem separator_apart {body front other extra : List Char} (once : c ∉ body)
    (reaches : other ++ (body ++ [c]) = front ++ [c] ++ extra) :
    extra = [] ∨ ∃ between, extra = between ++ (body ++ [c]) := by
  rcases List.append_eq_append_iff.mp reaches with ⟨start, ends, parted⟩ | ⟨between, _, later⟩
  · rcases List.eq_nil_or_concat extra with rfl | ⟨middle, last, rfl⟩
    · exact .inl rfl
    · rw [List.concat_eq_append, ← List.append_assoc] at parted
      obtain ⟨held, _⟩ := List.append_inj' parted rfl
      rcases List.eq_nil_or_concat start with rfl | ⟨early, d, rfl⟩
      · right
        exact ⟨[], by simpa using parted.symm⟩
      · -- The character would be among the others of the separator.
        rw [List.concat_eq_append, ← List.append_assoc] at ends
        obtain ⟨_, equal⟩ := List.append_inj' ends rfl
        cases equal
        apply absurd _ once
        simp [held]
  · exact .inr ⟨between, later⟩

theorem behind_separator {body front other tail more : List Char} (once : c ∉ body)
    (same : front ++ (body ++ c :: tail) = other ++ (body ++ c :: more)) :
    tail = more ∨ (∃ before, tail = before ++ (body ++ c :: more)) ∨ ∃ before, more = before ++ (body ++ c :: tail) := by
  have whole : front ++ body ++ [c] ++ tail = other ++ body ++ [c] ++ more := by simpa using same
  rcases List.append_eq_append_iff.mp whole with ⟨extra, reaches, split⟩ | ⟨extra, reaches, split⟩
  · rw [List.append_assoc other] at reaches
    rcases separator_apart once reaches with rfl | ⟨between, rfl⟩
    · exact .inl split
    · exact .inr (.inl ⟨between, by simpa using split⟩)
  · rw [List.append_assoc front] at reaches
    rcases separator_apart once reaches with rfl | ⟨between, rfl⟩
    · exact .inl split.symm
    · exact .inr (.inr ⟨between, by simpa using split⟩)

end

end ToolGateway.Text
