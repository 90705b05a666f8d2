import ToolGateway.Text.Search

namespace ToolGateway.Text

section
variable {sep : Char} {field s : List Char} {pieces : List (List Char)}

theorem fields_single (free : sep ∉ field) : fields sep field = [field] := by
  induction field with
  | nil => rfl
  | cons c rest ih =>
    have other : c ≠ sep := fun same => free (same ▸ List.mem_cons_self)
    have inside := ih fun present => free (List.mem_cons_of_mem c present)
    rw [fields, if_neg other, inside]

theorem fields_first (free : sep ∉ field) (rest : List Char) :
    fields sep (field ++ sep :: rest) = field :: fields sep rest := by
  induction field with
  | nil => exact if_pos rfl
  | cons c more ih =>
    have other : c ≠ sep := fun same => free (same ▸ List.mem_cons_self)
    have inside := ih fun present => free (List.mem_cons_of_mem c present)
    rw [List.cons_append, fields, if_neg other, inside]

theorem fields_joined (free : ∀ piece ∈ pieces, sep ∉ piece) (some_ : pieces ≠ []) :
    fields sep (List.intercalate [sep] pieces) = pieces := by
  induction pieces with
  | nil => exact absurd rfl some_
  | cons piece rest ih =>
    have first : sep ∉ piece := free piece List.mem_cons_self
    cases rest with
    | nil =>
      rw [List.intercalate_singleton]
      exact fields_single first
    | cons next rest =>
      have later := ih (fun other present => free other (List.mem_cons_of_mem piece present)) (List.cons_ne_nil _ _)
      rw [List.intercalate_cons_cons, List.append_assoc, List.singleton_append, fields_first first, later]

theorem fields_free (sep : Char) (s : List Char) : ∀ field ∈ fields sep s, sep ∉ field := by
  induction s with
  | nil => simp [fields]
  | cons c rest ih =>
    by_cases same : c = sep
    · rw [fields, if_pos same]
      exact List.forall_mem_cons.mpr ⟨List.not_mem_nil, ih⟩
    · obtain ⟨field, more, split⟩ := List.exists_cons_of_ne_nil (fields_ne_nil sep rest)
      rw [split] at ih
      obtain ⟨first, later⟩ := List.forall_mem_cons.mp ih
      rw [fields, if_neg same, split]
      refine List.forall_mem_cons.mpr ⟨?_, later⟩
      rw [List.mem_cons, not_or]
      exact ⟨Ne.symm same, first⟩

theorem joined_fields (sep : Char) (s : List Char) : List.intercalate [sep] (fields sep s) = s := by
  induction s with
  | nil => rfl
  | cons c rest ih =>
    obtain ⟨field, more, split⟩ := List.exists_cons_of_ne_nil (fields_ne_nil sep rest)
    rw [split] at ih
    by_cases same : c = sep
    · rw [fields, if_pos same, split, List.intercalate_cons_cons, ih, same]
      rfl
    · rw [fields, if_neg same, split]
      cases more with
      | nil =>
        rw [List.intercalate_singleton] at ih ⊢
        rw [ih]
      | cons next others =>
        rw [List.intercalate_cons_cons] at ih ⊢
        rw [← ih]
        rfl

end

end ToolGateway.Text
