import ToolGateway.Json.Print
import ToolGateway.Json.Record

namespace ToolGateway

namespace Envelope

inductive Kind where
  | bot
  | confirm
  | result
  | error
  deriving DecidableEq, Repr

def Kind.name : Kind → String
  | .bot => "bot"
  | .confirm => "confirm"
  | .result => "result"
  | .error => "error"

def Kind.ofName? (s : String) : Option Kind :=
  [Kind.bot, .confirm, .result, .error].find? fun kind => kind.name == s

theorem Kind.ofName?_name (kind : Kind) : Kind.ofName? kind.name = some kind := by
  cases kind <;> rfl

end Envelope

structure Envelope where
  kind : Envelope.Kind
  text : String
  payload : Option Json
  deriving BEq

namespace Envelope

def bot (text : String) : Envelope := ⟨.bot, text, none⟩
def confirm (text : String) (payload : Json) : Envelope := ⟨.confirm, text, some payload⟩
def error (text : String) : Envelope := ⟨.error, text, none⟩

-- A tool that returned nothing leaves no payload.
def result (text : String) (payload : Json) : Envelope :=
  ⟨.result, text, if payload.isNull then none else some payload⟩

def members (e : Envelope) : List (String × Json) :=
  [("type", .text e.kind.name), ("text", .text e.text)] ++ (e.payload.map fun v => ("payload", v)).toList

def wire (e : Envelope) : String := Json.compact (.object e.members)

def fields : List Json.Field := [⟨"type", []⟩, ⟨"text", []⟩, ⟨"payload", []⟩]

def payload? : Option Json.Tree → Option (Option Json)
  | none => some none
  | some .null => some none
  | some t => (t.value? Json.fieldDepth).map some

def ofTree? (t : Json.Tree) : Option Envelope :=
  match t.fields? fields with
  | some [some kind, some text, payload] => do
    let kind ← kind.word?.bind Kind.ofName?
    let text ← text.text?
    let payload ← payload? payload
    some ⟨kind, text, payload⟩
  | _ => none

def decode? (raw : String) : Option Envelope := (Json.Tree.ofChars? raw.toList).bind ofTree?

end Envelope
end ToolGateway
