import ToolGateway.Proofs.Catalog
import ToolGateway.Proofs.Json.Members

namespace ToolGateway.Tool

section
variable {tool : Tool} {raw : String} {t : Json.Tree} {v : Json} {members : Json.Members}
  {named : List (Json.Name × Json.Tree)}

theorem decode?_wire (portable : Json.Portable Json.fieldDepth tool.parameters) : decode? tool.wire = some tool := by
  have schema : tool.parameters.tree.value? Json.fieldDepth = some tool.parameters := Json.value?_tree portable
  have given : (Json.object tool.members).tree.fields? fields =
      some [some (.text (Json.pieces tool.name)), some (.text (Json.pieces tool.description)),
        some tool.parameters.tree] := by
    rw [Json.fields?_object]
    simp [members, fields, Json.Field.unique?, Json.Field.named, Json.tree]
  rw [decode?, wire, Json.ofChars?_compact, Option.bind_some, ofTree?, given]
  simp only [Json.text?_pieces, schema]
  rfl

-- A description and a schema that are not given have something that stands for them.
theorem ofTree?_fields {name : Json.Tree} {description schema : Option Json.Tree}
    (found : t.fields? fields = some [some name, description, schema]) :
    ofTree? t = name.text?.bind fun name => (description.elim (some "") Json.Tree.text?).bind fun description =>
      (schema.elim (some emptySchema) (Json.Tree.value? Json.fieldDepth)).bind fun schema =>
        some ⟨name, description, schema⟩ := by
  rw [ofTree?, found]
  cases description <;> cases schema <;> rfl

theorem ofTree?_read (read : ofTree? (.object named) = some tool) :
    ∃ given name description schema, Json.keyed? named = some given ∧
      Json.Field.unique? ⟨"name", []⟩ given = some (some name) ∧ name.text? = some tool.name ∧
      Json.Field.unique? ⟨"description", []⟩ given = some description ∧
      description.elim (some "") Json.Tree.text? = some tool.description ∧
      Json.Field.unique? ⟨"parameters", ["inputSchema"]⟩ given = some schema ∧
      schema.elim (some emptySchema) (Json.Tree.value? Json.fieldDepth) = some tool.parameters := by
  cases found : (Json.Tree.object named).fields? fields with
  | none => simp [ofTree?, found] at read
  | some values =>
    have listed := found
    simp only [Json.Tree.fields?, fields, Option.bind_eq_some_iff, Json.mapM_exact, List.forall₂_cons_left_iff,
      List.forall₂_nil_left_iff] at listed
    obtain ⟨given, keyed, name, _, one, ⟨description, _, two, ⟨schema, _, three, rfl, rfl⟩, rfl⟩, rfl⟩ := listed
    cases name with
    | none => simp [ofTree?, found] at read
    | some name =>
      rw [ofTree?_fields found] at read
      simp only [Option.bind_eq_some_iff] at read
      obtain ⟨said, text, told, described, chosen, built, equal⟩ := read
      cases equal
      exact ⟨given, name, description, schema, keyed, one, text, two, described, three, built⟩

theorem schemaOf_given {schema : Json} (present : schema ≠ .null)
    (found : (v.get? "inputSchema").or (v.get? "parameters") = some schema) : schemaOf v = schema := by
  rw [schemaOf, found]
  cases schema with
  | null => exact absurd rfl present
  | _ => rfl

-- The record reads its schema by one of the two keys, and by this key the description holds it.
theorem schemaOf_read {given : List (String × Json.Tree)} {pairs : Json.Members} {schema : Option Json.Tree}
    (built : Json.Built Json.fieldDepth given pairs)
    (unique : Json.Field.unique? ⟨"parameters", ["inputSchema"]⟩ given = some schema)
    (read : schema.elim (some emptySchema) (Json.Tree.value? Json.fieldDepth) = some v) (present : v ≠ .null) :
    schemaOf (Json.record pairs) = v := by
  have first : Json.Field.named ⟨"parameters", ["inputSchema"]⟩ "inputSchema" = true := by decide
  have second : Json.Field.named ⟨"parameters", ["inputSchema"]⟩ "parameters" = true := by decide
  cases schema with
  | none =>
    have without : (Json.record pairs).get? "inputSchema" = none ∧ (Json.record pairs).get? "parameters" = none :=
      ⟨Json.find?_ungiven built unique first, Json.find?_ungiven built unique second⟩
    rw [schemaOf, without.1, without.2]
    exact Option.some.inj read
  | some t =>
    obtain ⟨key, u, named, value, found⟩ := Json.find?_given built unique
    obtain rfl : u = v := Option.some.inj (value.symm.trans read)
    apply schemaOf_given present
    rw [Json.record, Json.get?, Json.get?, found _ first, found _ second]
    obtain rfl | rfl : key = "parameters" ∨ key = "inputSchema" := by simpa [Json.Field.named] using named
    · rfl
    · rfl

theorem ofDescriptor?_read (nonempty : tool.name ≠ "") (trimmed : Text.trim tool.name = tool.name)
    (present : tool.parameters ≠ .null) (read : ofTree? (.object named) = some tool)
    (document : (Json.Tree.object named).value? Json.maxDepth = some v) : ofDescriptor? v = some tool := by
  obtain ⟨pairs, inside, rfl⟩ := Option.map_eq_some_iff.mp document
  obtain ⟨given, keyed, built⟩ := Json.memberValues?_built inside
  obtain ⟨other, name, description, schema, same, one, text, two, described, three, chosen⟩ := ofTree?_read read
  obtain rfl : other = given := Option.some.inj (same.symm.trans keyed)
  have named : (Json.record pairs).textAt "name" = some tool.name := Json.textAt_given built one text
  have told : ((Json.record pairs).textAt "description").getD "" = tool.description := by
    cases description with
    | none =>
      rw [Json.textAt_ungiven built two]
      exact Option.some.inj described
    | some t =>
      rw [Json.textAt_given built two described]
      rfl
  simp only [ofDescriptor?, named, Option.bind_some, told, schemaOf_read built three chosen present]
  rw [trimmed, if_neg nonempty]

end

-- A written tool is read back. An object that is read as a tool with a proper name and a schema describes this tool.
theorem readers_agree :
    (∀ tool : Tool, Json.Portable 126 tool.parameters → decode? tool.wire = some tool) ∧
    ∀ raw members tool, Json.parse? raw = some (.object members) → decode? raw = some tool → tool.name ≠ "" →
      Text.trim tool.name = tool.name → tool.parameters ≠ .null → ofDescriptor? (.object members) = some tool := by
  refine ⟨fun tool portable => decode?_wire portable, ?_⟩
  intro raw members tool parsed decoded nonempty trimmed present
  obtain ⟨t, spelled, document⟩ := Option.bind_eq_some_iff.mp parsed
  obtain ⟨u, again, read⟩ := Option.bind_eq_some_iff.mp decoded
  obtain rfl : t = u := Option.some.inj (spelled.symm.trans again)
  obtain ⟨named, _, rfl, _, _⟩ := Json.value?_object_exact.mp document
  exact ofDescriptor?_read nonempty trimmed present read document

def disguised : String :=
  "\x7b\"x\":1e9,\"inputSchema\":\x7b\"type\":\"object\"\x7d,\"n\\u0061me\":\"ping\",\"x\":[\x7b\x7d]\x7d"

def ping : Tool := ⟨"ping", "", Json.record [("type", .text "object")]⟩

theorem readers_agree_disguised : decode? ping.wire = some ping ∧ decode? disguised = some ping ∧
    ∃ members, Json.parse? disguised = some (.object members) ∧ ofDescriptor? (.object members) = some ping := by
  have portable : Json.Portable 126 ping.parameters := by
    apply Json.portable_record
    intro m present
    obtain rfl := List.mem_singleton.mp present
    exact Json.portable_text _ _
  have decoded : decode? disguised = some ping := by cbv
  have document : ((Json.parse? disguised).bind Json.object?).isSome = true := by decide +kernel
  obtain ⟨members, found⟩ := Option.isSome_iff_exists.mp document
  obtain ⟨v, parsed, object⟩ := Option.bind_eq_some_iff.mp found
  obtain rfl := object?_exact.mp object
  exact ⟨readers_agree.1 ping portable, decoded, members, parsed,
    readers_agree.2 disguised members ping parsed decoded (by decide) (by decide +kernel)
      (by simp [ping, Json.record])⟩

end ToolGateway.Tool
