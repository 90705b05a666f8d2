import ToolGateway.Error
import ToolGateway.Plan
import ToolGateway.Tool

namespace ToolGateway

abbrev LlmReply := Except LlmError String

namespace Planner

inductive Role where
  | system
  | user
  deriving DecidableEq, Repr

structure Message where
  role : Role
  content : String
  deriving DecidableEq, Repr

def instructions : String :=
  "You convert natural language requests into MCP tool invocations.\n" ++
  "Return ONLY a strict JSON object with fields: tool, arguments, summary, confirmation_prompt.\n" ++
  "If no suitable tool exists, set tool=null and arguments=\x7b\x7d. Do not invent tools.\n" ++
  "Use the provided parameter schemas when forming arguments."

def property (description : String) (type : List (String × Json)) : Json :=
  .object (("description", .text description) :: type)

def textType : Json := .text "string"

-- The form of an answer, as a schema whose members are in the order they are shown in.
def planSchema : Json :=
  .object [
    ("$schema", .text "http://json-schema.org/draft-07/schema#"),
    ("title", .text "PlanFormat"),
    ("description", .text "规划答案格式（仅用于 Schema 生成）"),
    ("type", .text "object"),
    ("required", .array [.text "arguments", .text "confirmation_prompt", .text "summary"]),
    ("properties", .object [
      ("arguments", property "工具参数，遵循该工具的参数 schema"
        [("type", .text "object"), ("additionalProperties", .bool true)]),
      ("confirmation_prompt", property "向用户确认时展示的问题" [("type", textType)]),
      ("summary", property "一句话描述将要执行的动作" [("type", textType)]),
      ("tool", property "目录中的工具名；没有合适工具时为 null"
        [("type", .array [textType, .text "null"])])])]

def schemaText : String := Json.pretty planSchema

def systemPrompt : String := instructions ++ "\n\nAnswer JSON Schema:\n" ++ schemaText

def requestDocument (catalog : List Tool) (text : String) : Json :=
  Json.record [("available_tools", .array (catalog.map Tool.document)), ("user_request", .text text)]

def request (catalog : List Tool) (text : String) : List Message :=
  [⟨.system, systemPrompt⟩, ⟨.user, Json.compact (requestDocument catalog text)⟩]

def planOf (reply : LlmReply) : Except LlmError Plan := reply.map Plan.parse

end Planner
end ToolGateway
