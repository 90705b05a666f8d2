namespace ToolGateway

inductive BackendError where
  | transport (message : String)
  | rpc (code : Int) (message : String)
  | toolFailed (message : String)
  | decode (message : String)
  deriving DecidableEq, Repr

def BackendError.message : BackendError → String
  | .transport m => m
  | .rpc code m => "MCP error " ++ toString code ++ ": " ++ m
  | .toolFailed m => m
  | .decode m => "invalid response: " ++ m

inductive LlmError where
  | api (message : String)
  | timeout (seconds : Nat)
  | emptyResponse
  deriving DecidableEq, Repr

def LlmError.message : LlmError → String
  | .api m => "API error: " ++ m
  | .timeout seconds => "request timed out after " ++ toString seconds ++ "s"
  | .emptyResponse => "empty response"

-- Failures of the gateway. All but the first leave a session running.
inductive GatewayError where
  | catalogFetch (cause : BackendError)
  | planning (cause : LlmError)
  | execution (cause : BackendError)
  | malformedInput (reason : String)
  | unsupportedType (kind : String)
  | bind (reason : String)
  | config (reason : String)
  deriving DecidableEq, Repr

def GatewayError.message : GatewayError → String
  | .catalogFetch e => "Failed to fetch tool catalog: " ++ e.message
  | .planning e => "LLM error: " ++ e.message
  | .execution e => "Execution failed: " ++ e.message
  | .malformedInput m => "Malformed message: " ++ m
  | .unsupportedType kind => "Unsupported message type: " ++ kind
  | .bind m => "Failed to bind " ++ m
  | .config m => "Config error: " ++ m

def GatewayError.source? : GatewayError → Option String
  | .catalogFetch e => some e.message
  | .planning e => some e.message
  | .execution e => some e.message
  | _ => none

end ToolGateway
