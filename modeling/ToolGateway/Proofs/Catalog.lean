import ToolGateway.Catalog
import ToolGateway.Proofs.Json.Canonical
import ToolGateway.Proofs.Text.Trim

namespace ToolGateway

namespace Tool

section
variable {tool : Tool} {raw : Json}

theorem schemaOf_present (raw : Json) : schemaOf raw ≠ .null := by
  unfold schemaOf
  split
  · simp [emptySchema]
  · simp [emptySchema]
  · intro null
    rename_i present _
    exact present null

theorem schemaOf_canonical (canonical : raw.Canonical) : (schemaOf raw).Canonical := by
  have empty : emptySchema.Canonical := Json.canonical_object.mpr ⟨.nil, by simp⟩
  unfold schemaOf
  split
  · exact empty
  · exact empty
  · rename_i found
    rcases Option.or_eq_some_iff.mp found with named | ⟨_, other⟩
    · exact Json.canonical_get? canonical named
    · exact Json.canonical_get? canonical other

theorem ofDescriptor?_settled (made : ofDescriptor? raw = some tool) :
    tool.name ≠ "" ∧ Text.trim tool.name = tool.name ∧ tool.parameters = schemaOf raw := by
  obtain ⟨given, _, kept⟩ := Option.bind_eq_some_iff.mp made
  dsimp only at kept
  split at kept
  · cases kept
  · cases kept
    exact ⟨‹_›, Text.trim_trim given, rfl⟩

theorem ofDescriptor?_document (nonempty : tool.name ≠ "") (trimmed : Text.trim tool.name = tool.name)
    (schema : tool.parameters ≠ .null) : ofDescriptor? tool.document = some tool := by
  obtain ⟨name, description, parameters⟩ := tool
  have given : schemaOf (document ⟨name, description, parameters⟩) = parameters := by
    simp only [schemaOf, document, members, Json.record, Json.Members.ofList, Json.get?, List.foldl, Json.find?_insert]
    cases parameters with
    | null => exact absurd rfl schema
    | _ => rfl
  have named : (document ⟨name, description, parameters⟩).textAt "name" = some name := by
    simp [document, members, Json.record, Json.Members.ofList, Json.textAt, Json.get?, Json.find?_insert, Json.text?]
  have described : (document ⟨name, description, parameters⟩).textAt "description" = some description := by
    simp [document, members, Json.record, Json.Members.ofList, Json.textAt, Json.get?, Json.find?_insert, Json.text?]
  simp only [ofDescriptor?, named, Option.bind_some, described, given]
  rw [trimmed, if_neg nonempty]
  rfl

end
end Tool

namespace Catalog

section
variable {tool : Tool} {listing : Listing}

theorem mem_add {raw : Json} (present : tool ∈ (listing.add raw).tools) :
    tool ∈ listing.tools ∨ Tool.ofDescriptor? raw = some tool := by
  unfold Listing.add at present
  cases made : Tool.ofDescriptor? raw with
  | none =>
    rw [made] at present
    exact .inl present
  | some other =>
    simp only [made] at present
    split at present
    · exact .inl present
    · rcases List.mem_append.mp present with old | new
      · exact .inl old
      · rw [List.mem_singleton.mp new]
        exact .inr rfl

theorem mem_foldl {raws : List Json} (present : tool ∈ (raws.foldl Listing.add listing).tools) :
    tool ∈ listing.tools ∨ ∃ raw ∈ raws, Tool.ofDescriptor? raw = some tool := by
  induction raws generalizing listing with
  | nil => exact .inl present
  | cons raw rest ih =>
    rcases ih present with early | ⟨later, there, made⟩
    · rcases mem_add early with old | made
      · exact .inl old
      · exact .inr ⟨raw, List.mem_cons_self, made⟩
    · exact .inr ⟨later, List.mem_cons_of_mem raw there, made⟩

theorem mem_list {raws : List Json} (present : tool ∈ (list raws).tools) :
    ∃ raw ∈ raws, Tool.ofDescriptor? raw = some tool := by
  rcases mem_foldl present with early | described
  · cases early
  · exact described

end
end Catalog

end ToolGateway
