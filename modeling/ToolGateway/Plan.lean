import ToolGateway.Execution
import ToolGateway.Text.Blank
import ToolGateway.Text.Search

namespace ToolGateway

structure Plan where
  tool : Option String
  arguments : Json.Members
  summary : String
  prompt : String
  deriving BEq

namespace Plan

def degraded : Plan := ⟨none, [], "Failed to parse plan.", "I couldn't understand the request."⟩

def action? (plan : Plan) : Option Action := plan.tool.map fun tool => ⟨tool, plan.arguments⟩

def openFence : List Char := "```json".toList
def closeFence : List Char := "```".toList

-- From the first opening brace to the last closing one after it, or all if there is no such pair.
def braced (s : List Char) : List Char :=
  let start := s.dropWhile (· != '\x7b')
  match (start.reverse.dropWhile (· != '\x7d')).reverse with
  | [] => s
  | object => object

def extract (output : List Char) : List Char :=
  let trimmed := Text.trimChars output
  match Text.cut openFence trimmed with
  | some (_, rest) =>
    match Text.cut closeFence rest with
    | some (block, _) => Text.trimChars block
    | none => Text.trimChars rest
  | none => braced trimmed

def toolOf (members : Json.Members) : Option String :=
  ((members.find? "tool").bind Json.text?).bind fun given =>
    let name := Text.trim given
    if name = "" then none else some name

-- The first key that is present decides, whatever its value is.
def argumentsOf (members : Json.Members) : Json.Members :=
  (((members.find? "arguments").or (members.find? "args")).bind Json.object?).getD []

def textOf (value : Option Json) : String := (value.bind Json.text?).getD ""

def ofMembers (members : Json.Members) : Plan :=
  ⟨toolOf members, argumentsOf members, textOf (members.find? "summary"),
    textOf ((members.find? "confirmation_prompt").or (members.find? "confirmation"))⟩

def parse (output : String) : Plan :=
  match (Json.parseChars? (extract output.toList)).bind Json.object? with
  | some members => ofMembers members
  | none => degraded

def members (plan : Plan) : List (String × Json) :=
  [("tool", (plan.tool.map Json.text).getD .null), ("arguments", .object plan.arguments),
    ("summary", .text plan.summary), ("confirmation_prompt", .text plan.prompt)]

def wire (plan : Plan) : String := Json.compact (.object plan.members)

def confirmText (plan : Plan) (action : Action) : String :=
  plan.summary ++ "\n\n" ++ plan.prompt ++ "\n\nTool: " ++ action.tool ++ "\nArgs: "
    ++ Json.compact (.object action.arguments) ++ "\n\nType 'yes' to proceed or 'no' to cancel."

end Plan
end ToolGateway
