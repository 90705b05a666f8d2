import ToolGateway.Error
import ToolGateway.ToolOutput

namespace ToolGateway

structure Action where
  tool : String
  arguments : Json.Members
  deriving BEq

def Action.payload (action : Action) : Json :=
  Json.record [("tool", .text action.tool), ("arguments", .object action.arguments)]

abbrev CallResult := Except BackendError ToolOutput

structure Audit where
  tool : String
  ok : Bool
  preview : String
  deriving DecidableEq, Repr

namespace Audit

def previewLength : Nat := 200

-- Long arguments are cut, and the cut is marked.
def previewChars (s : List Char) : List Char :=
  if previewLength < s.length then s.take previewLength ++ ['.', '.', '.'] else s

def previewOf (arguments : Json.Members) : String :=
  String.ofList (previewChars (Json.object arguments).render)

def ofCall (action : Action) (result : CallResult) : Audit :=
  ⟨action.tool, result.isOk, previewOf action.arguments⟩

def event : String := "tool_audit"

def outcome (audit : Audit) : String := if audit.ok then "ok" else "error"

def document (audit : Audit) : Json :=
  Json.record [("event", .text event), ("tool", .text audit.tool), ("ok", .bool audit.ok),
    ("outcome", .text audit.outcome), ("args_preview", .text audit.preview)]

end Audit

def CallResult.delivered (result : CallResult) : Except BackendError Json := result.map ToolOutput.document

end ToolGateway
