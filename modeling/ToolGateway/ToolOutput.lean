import ToolGateway.Json.Print
import ToolGateway.Json.Value

namespace ToolGateway

inductive ToolOutput where
  | structured (value : Json)
  | jsonText (text : String)
  | text (text : String)

namespace ToolOutput

def document : ToolOutput → Json
  | .structured value => value
  | .jsonText written =>
    match Json.parse? written with
    | some value => if value.isDocument then value else .text written
    | none => .text written
  | .text written => .text written

-- Numbers and truth values are delivered as their text.
def ofResult : Json → ToolOutput
  | .text written => .jsonText written
  | .bool b => .text (Json.compact (.bool b))
  | .whole n => .text (Json.compact (.whole n))
  | .real x => .text (Json.compact (.real x))
  | value => .structured value

def contentTexts (result : Json) : List String :=
  (((result.get? "content").bind Json.array?).getD []).filterMap (Json.textAt "text")

def unexplained : String := "tool reported an error"

-- A result may say of itself that it is a failure.
def failure? (result : Json) : Option String :=
  if (result.get? "isError").bind Json.bool? = some true then
    let text := String.intercalate "\n" (contentTexts result)
    some (if text = "" then unexplained else text)
  else none

end ToolOutput
end ToolGateway
