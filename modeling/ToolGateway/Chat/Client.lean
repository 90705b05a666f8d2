import ToolGateway.Chat.Completion
import ToolGateway.Config.Settings
import ToolGateway.Decimal.Shortest
import ToolGateway.Http.Exchange
import ToolGateway.Planner
import ToolGateway.TokenUsage

namespace ToolGateway.Chat

structure Client where
  base : String
  model : String
  key : String
  temperature : Decimal.Floating
  jsonMode : Bool
  timeoutSecs : Nat
  decoder : Decoder

def keyVariable : String := "OPENAI_API_KEY"

-- Without a base in the settings the service is at its home, and without a key the environment's counts.
def Client.ofSettings (home : String) (decoder : Decoder) (env : String → Option String) (s : Config.LlmSettings) :
    Client :=
  ⟨s.baseUrl.getD home, s.model, (s.apiKey.or (env keyVariable)).getD "", s.temperature, true,
    s.requestTimeoutSecs, decoder⟩

def Client.address (client : Client) : String := client.base ++ "/chat/completions"

def roleName : Planner.Role → String
  | .system => "system"
  | .user => "user"

def messageDocument (message : Planner.Message) : Json :=
  Json.record [("role", .text (roleName message.role)), ("content", .text message.content)]

-- A number of single precision is written by its own shortest digits.
def temperatureDocument : Decimal.Floating → Json
  | .finite x =>
    let d := Decimal.shortest Decimal.single .even x.magnitude
    match Decimal.nearest Decimal.double d.digits Decimal.mostDigits d.power with
    | some magnitude => .real ⟨x.negative, magnitude⟩
    | none => .null
  | _ => .null

def objectFormat : List (String × Json) := [("response_format", Json.record [("type", .text "json_object")])]

def Client.document (client : Client) (messages : List Planner.Message) : Json :=
  Json.record ([("model", .text client.model), ("messages", .array (messages.map messageDocument)),
    ("temperature", temperatureDocument client.temperature)] ++ if client.jsonMode then objectFormat else [])

def Client.headers (client : Client) : Http.Headers :=
  .ofTexts [("authorization", "Bearer " ++ client.key), ("content-type", "application/json")]

def Client.post (client : Client) (messages : List Planner.Message) : Except String Http.Post :=
  (Http.target client.address).map fun url => ⟨url, client.headers, Json.compact (client.document messages)⟩

inductive Verdict where
  | again
  | settled (result : Except LlmError Completion)

def Verdict.refused (message : String) : Verdict := .settled (.error (.api message))

def connectionError (reason : String) : String := "http error: " ++ reason
def quotaKind : String := "insufficient_quota"
def tooMany : Nat := 429

-- An exhausted quota does not come back by asking again.
def Refusal.verdict (r : Refusal) (status : Nat) : Verdict :=
  if status = tooMany ∧ r.kind ≠ some quotaKind then .again else .refused r.text

def Client.judge (client : Client) : Http.Exchange → Verdict
  | .failed reason => .refused (connectionError reason)
  | .answered answer =>
    if !answer.whole then .refused (connectionError answer.defect)
    else if Http.Status.isServerError answer.status then .again
    else if Http.Status.isSuccess answer.status then
      match client.decoder.completion answer.bytes with
      | .ok completion => .settled (.ok completion)
      | .error reason => .refused reason
    else match client.decoder.refusal answer.bytes with
      | .ok refusal => refusal.verdict answer.status
      | .error reason => .refused reason

-- The first attempt that settles decides; with none in time the request timed out.
def Client.settle (client : Client) : List Http.Exchange → Except LlmError Completion
  | [] => .error (.timeout client.timeoutSecs)
  | exchange :: rest =>
    match client.judge exchange with
    | .again => client.settle rest
    | .settled result => result

def Client.complete (client : Client) (network : Http.Network) (messages : List Planner.Message) :
    Except LlmError Completion :=
  match client.post messages with
  | .error reason => .error (.api (connectionError reason))
  | .ok post => client.settle (network post)

def replyOf : Except LlmError Completion → LlmReply
  | .error e => .error e
  | .ok completion => completion.content.elim (.error .emptyResponse) .ok

def count (usage : TokenUsage) : Except LlmError Completion → TokenUsage
  | .error _ => usage
  | .ok completion =>
    completion.usage.elim usage fun spent => usage.add spent.prompt.toUInt64 spent.completion.toUInt64

end ToolGateway.Chat
