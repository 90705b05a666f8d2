import ToolGateway.Execution
import ToolGateway.Http.Exchange

namespace ToolGateway.Rpc

structure Call where
  method : String
  params : Json

def listing : Call := ⟨"tools/list", .object []⟩

def invocation (action : Action) : Call := ⟨"tools/call", Json.record [("name", .text action.tool),
  ("arguments", .object action.arguments)]⟩

def version : String := "2.0"

def Call.document (call : Call) (id : String) : Json :=
  Json.record [("jsonrpc", .text version), ("id", .text id), ("method", .text call.method),
    ("params", call.params)]

def contentType : Http.Headers := .ofTexts [("content-type", "application/json")]

def Call.post (call : Call) (address id : String) : Except String Http.Post :=
  (Http.target address).map fun url => ⟨url, contentType, Json.compact (call.document id)⟩

-- An error without a readable code has the code zero, one without a message is shown as it is.
def reported (error : Json) : BackendError :=
  .rpc (((error.get? "code").bind Json.signed?).getD 0) ((error.textAt "message").getD (Json.compact error))

-- An error counts before a result, even when it is null.
def Call.result (call : Call) (document : Json) : Except BackendError Json :=
  match document.get? "error", document.get? "result" with
  | some error, _ => .error (reported error)
  | none, some result => .ok result
  | none, none => .error (.decode ("missing result in " ++ call.method))

def Call.judge (call : Call) : Http.Exchange → Except BackendError Json
  | .failed reason => .error (.transport reason)
  | .answered answer =>
    if Http.Status.isError answer.status then .error (.transport answer.refusal)
    else match answer.document? with
      | none => .error (.decode answer.defect)
      | some document => call.result document

def Call.perform (call : Call) (network : Http.Network) (address id : String) : Except BackendError Json :=
  match call.post address id with
  | .error reason => .error (.transport reason)
  | .ok post => call.judge (network.once post)

-- The descriptions that a listing gives; without a list of them there are none.
def descriptors (result : Json) : List Json := ((result.get? "tools").bind Json.array?).getD []

def outcome (result : Json) : CallResult :=
  match ToolOutput.failure? result with
  | some message => .error (.toolFailed message)
  | none => .ok (.ofResult result)

def list (network : Http.Network) (address id : String) : Except BackendError (List Json) :=
  (listing.perform network address id).map descriptors

def invoke (network : Http.Network) (address id : String) (action : Action) : CallResult :=
  ((invocation action).perform network address id).bind outcome

end ToolGateway.Rpc
