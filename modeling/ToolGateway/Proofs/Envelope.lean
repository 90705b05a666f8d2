import ToolGateway.Proofs.Json.Record
import ToolGateway.Session.Basic

namespace ToolGateway

namespace Json

theorem value?_null {t : Tree} {depth : Nat} (read : t.value? depth = some .null) : t = .null := by
  have null : t.shape = .null := value?_shape read
  cases t with
  | null => rfl
  | _ => cases null

end Json

namespace Envelope

section
variable {e : Envelope} {t : Json.Tree} {given : Option Json.Tree} {v : Json} {raw : String}

theorem decode?_wire_eq (e : Envelope) : decode? e.wire = ofTree? (Json.object e.members).tree := by
  rw [decode?, wire, Json.ofChars?_compact]
  rfl

theorem fields?_members (e : Envelope) :
    (Json.object e.members).tree.fields? fields =
      some [some (.text (Json.pieces e.kind.name)), some (.text (Json.pieces e.text)), e.payload.map Json.tree] := by
  rw [Json.fields?_object]
  cases present : e.payload with
  | none => simp [members, present, fields, Json.Field.unique?, Json.Field.named, Json.tree]
  | some v => simp [members, present, fields, Json.Field.unique?, Json.Field.named, Json.tree]

theorem payload?_present (present : t ≠ .null) : payload? (some t) = (t.value? Json.fieldDepth).map some := by
  cases t with
  | null => exact absurd rfl present
  | _ => rfl

theorem payload?_tree (portable : Json.Portable Json.fieldDepth v) :
    payload? (some v.tree) = some ((some v).filter fun v => !v.isNull) := by
  have read : v.tree.value? Json.fieldDepth = some v := Json.value?_tree portable
  cases v with
  | null => rfl
  | _ =>
    rw [payload?_present (by simp [Json.tree]), read]
    rfl

theorem payload?_written (portable : ∀ v, e.payload = some v → Json.Portable Json.fieldDepth v) :
    payload? (e.payload.map Json.tree) = some (e.payload.filter fun v => !v.isNull) := by
  cases present : e.payload with
  | none => rfl
  | some v => exact payload?_tree (portable v present)

theorem decode?_wire (portable : ∀ v, e.payload = some v → Json.Portable Json.fieldDepth v) :
    decode? e.wire = some {e with payload := e.payload.filter fun v => !v.isNull} := by
  rw [decode?_wire_eq, ofTree?, fields?_members]
  simp only [Json.word?_pieces, Json.text?_pieces, Option.bind_some, Kind.ofName?_name, payload?_written portable]
  rfl

theorem payload?_read (read : payload? given = some (some v)) :
    v.Canonical ∧ v.nesting ≤ Json.fieldDepth ∧ v ≠ .null := by
  cases given with
  | none => cases read
  | some t =>
    by_cases null : t = .null
    · rw [null] at read
      cases read
    · rw [payload?_present null] at read
      obtain ⟨u, value, equal⟩ := Option.map_eq_some_iff.mp read
      cases equal
      obtain ⟨canonical, shallow⟩ := Json.value?_canonical value
      refine ⟨canonical, shallow, ?_⟩
      intro isNull
      rw [isNull] at value
      exact null (Json.value?_null value)

theorem decode?_payload (decoded : decode? raw = some e) (present : e.payload = some v) :
    v.Canonical ∧ v.nesting ≤ Json.fieldDepth ∧ v ≠ .null := by
  obtain ⟨t, _, made⟩ := Option.bind_eq_some_iff.mp decoded
  unfold ofTree? at made
  split at made
  · simp only [Option.bind_eq_bind, Option.bind_eq_some_iff] at made
    obtain ⟨kind, _, text, _, payload, read, equal⟩ := made
    cases equal
    have given : payload = some v := present
    rw [given] at read
    exact payload?_read read
  · cases made

theorem isNull_false (present : v ≠ .null) : v.isNull = false := by
  cases v with
  | null => exact absurd rfl present
  | _ => rfl

theorem keys?_result (text : String) (document : Json) :
    ∃ keys, Json.keys? (Envelope.result text document).wire = some keys ∧
      ("payload" ∈ keys ↔ document ≠ .null) := by
  refine ⟨(Envelope.result text document).members.map Prod.fst, Json.keys?_object _, ?_⟩
  cases document <;> simp [Envelope.result, members, Json.isNull]

end

-- Reading gives back what was written, and writing what was read gives the same again.
theorem wire_round_trip :
    (∀ e : Envelope, (∀ v, e.payload = some v → Json.Portable 126 v) →
      decode? e.wire = some {e with payload := e.payload.filter fun v => !v.isNull}) ∧
    (∀ raw e, decode? raw = some e → (∀ v, e.payload = some v → v.Integral) → decode? e.wire = some e) ∧
    ∀ output : ToolOutput, ∃ keys, Json.keys? (Session.executed (.ok output)).wire = some keys ∧
      ("payload" ∈ keys ↔ output.document ≠ .null) := by
  refine ⟨?_, ?_, ?_⟩
  · intro e portable
    exact decode?_wire portable
  · intro raw e decoded integral
    have portable : ∀ v, e.payload = some v → Json.Portable Json.fieldDepth v := by
      intro v present
      obtain ⟨canonical, shallow, _⟩ := decode?_payload decoded present
      exact ⟨canonical, integral v present, shallow⟩
    have kept : (e.payload.filter fun v => !v.isNull) = e.payload := by
      cases present : e.payload with
      | none => rfl
      | some v =>
        have given : v.isNull = false := isNull_false (decode?_payload decoded present).2.2
        simp [given]
    rw [decode?_wire portable, kept]
  · intro output
    exact keys?_result Session.Texts.done output.document

-- A text that needs escapes and a payload with a null inside, which stays.
def quoted : Envelope := ⟨.confirm, "\"\n…", some (.object [("a\\", .array [.null, .whole (-1)])])⟩

theorem wire_round_trip_quoted :
    quoted.wire = "\x7b\"type\":\"confirm\",\"text\":\"\\\"\\n…\",\"payload\":\x7b\"a\\\\\":[null,-1]\x7d\x7d" ∧
      (∀ v, quoted.payload = some v → Json.Portable 126 v) ∧ decode? quoted.wire = some quoted := by
  have portable : ∀ v, quoted.payload = some v → Json.Portable 126 v := by
    intro v present
    obtain rfl : .object [("a\\", .array [.null, .whole (-1)])] = v := Option.some.inj present
    have whole : Json.Bounded (-1) := by
      constructor <;> decide
    refine ⟨?_, ?_, by decide⟩
    · simp [Json.Canonical, Json.parts, Json.itemParts, Json.memberParts, Json.Orderly, Json.Members.Sorted, whole]
    · simp [Json.Integral, Json.parts, Json.itemParts, Json.memberParts, Json.isReal]
  exact ⟨by cbv, portable, wire_round_trip.1 quoted portable⟩

end Envelope
end ToolGateway
