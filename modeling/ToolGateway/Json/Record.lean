import ToolGateway.Json.Value

namespace ToolGateway.Json

structure Field where
  name : String
  others : List String

def Field.named (field : Field) (key : String) : Bool := key == field.name || field.others.contains key

def keyed? (members : List (Name × Tree)) : Option (List (String × Tree)) :=
  members.mapM fun (name, t) => (textOf? name).map fun key => (key, t)

-- The one member of a field; a field given twice refuses the record.
def Field.unique? (field : Field) (members : List (String × Tree)) : Option (Option Tree) :=
  match members.filter fun member => field.named member.1 with
  | [] => some none
  | [(_, t)] => some (some t)
  | _ => none

def Tree.fields? (fields : List Field) : Tree → Option (List (Option Tree))
  | .object members => (keyed? members).bind fun given => fields.mapM fun field => field.unique? given
  | .array items =>
    if items.length ≤ fields.length then
      some (items.map some ++ List.replicate (fields.length - items.length) none)
    else none
  | _ => none

def Tree.text? : Tree → Option String
  | .text pieces => textOf? pieces
  | _ => none

-- A word of an enumeration: the word itself, or the only key of an object whose value is null.
def Tree.word? : Tree → Option String
  | .text pieces => textOf? pieces
  | .object [(name, .null)] => textOf? name
  | _ => none

def fieldDepth : Nat := maxDepth - 1

end ToolGateway.Json
