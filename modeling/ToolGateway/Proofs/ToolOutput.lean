import ToolGateway.Proofs.Json.Parsing
import ToolGateway.Session.Basic

namespace ToolGateway

namespace Json

def DocumentText (written : String) (document : Json) : Prop :=
  ∃ t, Padded t written.toList ∧ t.value? maxDepth = some document ∧ document.isDocument = true

section
variable {v document : Json} {written : String}

theorem parse?_exact : parse? written = some v ↔ ∃ t, Padded t written.toList ∧ t.value? maxDepth = some v := by
  simp only [parse?, parseChars?, parseWithin?, Option.bind_eq_some_iff, ofChars?_exact]

theorem documentText_exact :
    DocumentText written document ↔ parse? written = some document ∧ document.isDocument = true := by
  rw [parse?_exact, DocumentText]
  exact ⟨fun ⟨t, spelled, value, compound⟩ => ⟨⟨t, spelled, value⟩, compound⟩,
    fun ⟨⟨t, spelled, value⟩, compound⟩ => ⟨t, spelled, value, compound⟩⟩

theorem tree_shape (v : Json) : v.tree.shape = v.shape := by
  cases v <;> rfl

theorem isDocument_shape : v.isDocument = true ↔ v.shape = .array ∨ v.shape = .object := by
  cases v <;> simp [isDocument, shape]

-- A text that was written for a scalar is read as a scalar of its form, if at all.
theorem compact_scalar (scalar : v.isDocument = false) : ¬ DocumentText (compact v) document := by
  intro spelled
  obtain ⟨read, compound⟩ := documentText_exact.mp spelled
  rw [parse?_eq] at read
  have same : v.shape = document.shape := (tree_shape v).symm.trans (value?_shape read)
  rw [isDocument_shape, ← same, ← isDocument_shape, scalar] at compound
  cases compound

end

end Json

namespace ToolOutput

def rendered (result : Json) : Json := (ofResult result).document

inductive Settled : Json → Prop where
  | null : Settled .null
  | array : Settled (.array items)
  | object : Settled (.object members)
  | text (plain : ∀ document, ¬ Json.DocumentText written document) : Settled (.text written)

section
variable {v document : Json} {written : String}

theorem settled_document (compound : v.isDocument = true) : Settled v := by
  cases v with
  | array items => exact .array
  | object members => exact .object
  | _ => cases compound

theorem rendered_spelled (spelled : Json.DocumentText written document) : rendered (.text written) = document := by
  obtain ⟨read, compound⟩ := Json.documentText_exact.mp spelled
  simp only [rendered, ofResult, ToolOutput.document, read, compound, if_true]

theorem rendered_plain (plain : ∀ document, ¬ Json.DocumentText written document) :
    rendered (.text written) = .text written := by
  simp only [rendered, ofResult, ToolOutput.document]
  split
  · rename_i document read
    rw [if_neg fun compound => plain document (Json.documentText_exact.mpr ⟨read, compound⟩)]
  · rfl

theorem rendered_settled (v : Json) : Settled (rendered v) := by
  cases v with
  | null => exact .null
  | array items => exact .array
  | object members => exact .object
  | text written =>
    by_cases spelled : ∃ document, Json.DocumentText written document
    · obtain ⟨document, spelled⟩ := spelled
      rw [rendered_spelled spelled]
      exact settled_document (Json.documentText_exact.mp spelled).2
    · have plain := not_exists.mp spelled
      rw [rendered_plain plain]
      exact .text plain
  | bool | whole | real => exact .text fun _ => Json.compact_scalar rfl

theorem rendered_fixed (settled : Settled v) : rendered v = v := by
  cases settled with
  | null => rfl
  | array => rfl
  | object => rfl
  | text plain => exact rendered_plain plain

theorem settled_form (settled : Settled v) : v.shape ≠ .number ∧ v.shape ≠ .truth := by
  cases settled <;> exact ⟨by simp [Json.shape], by simp [Json.shape]⟩

theorem rendered_null : rendered v = .null ↔ v = .null := by
  constructor
  · intro nothing
    cases v with
    | null => rfl
    | text written =>
      by_cases spelled : ∃ document, Json.DocumentText written document
      · obtain ⟨document, spelled⟩ := spelled
        have compound := (Json.documentText_exact.mp spelled).2
        rw [← rendered_spelled spelled, nothing] at compound
        cases compound
      · rw [rendered_plain (not_exists.mp spelled)] at nothing
        cases nothing
    | _ => cases nothing
  · rintro rfl
    rfl

theorem executed_rendered {result other : Json} (same : rendered result = rendered other) :
    Session.executed (.ok (ofResult result)) = Session.executed (.ok (ofResult other)) :=
  congrArg (Envelope.result Session.Texts.done) same

theorem spelled_compact (compound : v.isDocument = true) (portable : Json.Portable Json.maxDepth v) :
    Json.DocumentText (Json.compact v) v :=
  Json.documentText_exact.mpr ⟨Json.parse?_compact portable, compound⟩

end

-- What is delivered stays so when it is delivered again; it is no number and no truth value, and nothing only for
-- nothing. A document and its text are delivered alike, as the document, and no other text is touched.
theorem rendering_canonical :
    (∀ v, rendered (rendered v) = rendered v) ∧
    (∀ v, (rendered v).shape ≠ .number ∧ (rendered v).shape ≠ .truth) ∧
    (∀ v, rendered v = .null ↔ v = .null) ∧
    (∀ v, v.isDocument = true → rendered v = v) ∧
    (∀ v, v.isDocument = true → Json.Portable 127 v → rendered (.text (Json.compact v)) = v ∧
      Session.executed (.ok (ofResult (.text (Json.compact v)))) = Session.executed (.ok (ofResult v))) ∧
    ∀ written, (∀ document, ¬ Json.DocumentText written document) → rendered (.text written) = .text written := by
  have kept : ∀ v, v.isDocument = true → rendered v = v := fun v compound => rendered_fixed (settled_document compound)
  refine ⟨fun v => rendered_fixed (rendered_settled v), fun v => settled_form (rendered_settled v),
    fun v => rendered_null, kept, ?_, fun written => rendered_plain⟩
  intro v compound portable
  have spelled : rendered (.text (Json.compact v)) = v := rendered_spelled (spelled_compact compound portable)
  exact ⟨spelled, executed_rendered (spelled.trans (kept v compound).symm)⟩

theorem rendering_canonical_nested :
    let v : Json := .array [.text "\x7b\"a\":[]\x7d"]
    v.isDocument = true ∧ Json.Portable 127 v ∧ rendered v = v ∧ rendered (.text (Json.compact v)) = v ∧
      (∀ document, ¬ Json.DocumentText "\"[]\"" document) ∧ rendered (.text "\"[]\"") = .text "\"[]\"" := by
  intro v
  have portable : Json.Portable 127 v := by
    apply Json.portable_array
    intro item present
    obtain rfl := List.mem_singleton.mp present
    exact Json.portable_text _ _
  have plain : ∀ document, ¬ Json.DocumentText "\"[]\"" document := by
    intro document
    exact Json.compact_scalar (v := .text "[]") rfl
  exact ⟨rfl, portable, rendering_canonical.2.2.2.1 v rfl, (rendering_canonical.2.2.2.2.1 v rfl portable).1, plain,
    rendering_canonical.2.2.2.2.2 "\"[]\"" plain⟩

end ToolOutput
end ToolGateway
