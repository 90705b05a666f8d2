import ToolGateway.Error
import ToolGateway.Json.Record

namespace ToolGateway

structure UserMessage where
  kind : String
  text : String
  deriving DecidableEq, Repr

namespace UserMessage

def fields : List Json.Field := [⟨"type", []⟩, ⟨"text", []⟩]

def ofTree? (t : Json.Tree) : Option UserMessage :=
  match t.fields? fields with
  | some [some kind, some text] => do
    let kind ← kind.text?
    let text ← text.text?
    some ⟨kind, text⟩
  | _ => none

def decode? (raw : String) : Option UserMessage := (Json.Tree.ofChars? raw.toList).bind ofTree?

def userKind : String := "user"

def userText (raw : String) : Except GatewayError String :=
  match decode? raw with
  | none => .error (.malformedInput "not a record of a type and a text")
  | some message =>
    if message.kind = userKind then .ok message.text else .error (.unsupportedType message.kind)

end UserMessage
end ToolGateway
