import ToolGateway.Json.Print
import ToolGateway.Json.Record
import ToolGateway.Text.Blank

namespace ToolGateway

structure Tool where
  name : String
  description : String
  parameters : Json
  deriving BEq

namespace Tool

def emptySchema : Json := .object []

-- The schema goes by either of two keys; the first one present decides, even when it is null.
def schemaOf (raw : Json) : Json :=
  match (raw.get? "inputSchema").or (raw.get? "parameters") with
  | none => emptySchema
  | some .null => emptySchema
  | some schema => schema

def ofDescriptor? (raw : Json) : Option Tool :=
  (raw.textAt "name").bind fun given =>
    let name := Text.trim given
    if name = "" then none else some ⟨name, (raw.textAt "description").getD "", schemaOf raw⟩

def members (tool : Tool) : List (String × Json) :=
  [("name", .text tool.name), ("description", .text tool.description), ("parameters", tool.parameters)]

def wire (tool : Tool) : String := Json.compact (.object tool.members)

def document (tool : Tool) : Json := Json.record tool.members

def fields : List Json.Field := [⟨"name", []⟩, ⟨"description", []⟩, ⟨"parameters", ["inputSchema"]⟩]

def ofTree? (t : Json.Tree) : Option Tool :=
  match t.fields? fields with
  | some [some name, description, schema] => do
    let name ← name.text?
    let description ← match description with
      | none => some ""
      | some d => d.text?
    let schema ← match schema with
      | none => some emptySchema
      | some s => s.value? Json.fieldDepth
    some ⟨name, description, schema⟩
  | _ => none

def decode? (raw : String) : Option Tool := (Json.Tree.ofChars? raw.toList).bind ofTree?

end Tool
end ToolGateway
