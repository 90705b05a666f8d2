import ToolGateway.Catalog
import ToolGateway.Envelope
import ToolGateway.Planner
import ToolGateway.Reply
import ToolGateway.Session.Texts
import ToolGateway.UserMessage

namespace ToolGateway

inductive Session.Call where
  | plan (text : String)
  | tool (action : Action)

inductive Session.Answer where
  | reply (reply : LlmReply)
  | outcome (result : CallResult)

structure Session where
  catalog : List Tool
  pending : Option Action
  call : Option Session.Call

namespace Session

inductive State where
  | awaitingInput
  | awaitingConfirmation
  deriving DecidableEq, Repr

def state (s : Session) : State := if s.pending.isSome then .awaitingConfirmation else .awaitingInput

def start (listing : Except BackendError (List Json)) : Except GatewayError (Session × List Envelope) :=
  match listing with
  | .error e => .error (.catalogFetch e)
  | .ok raws => .ok (⟨(Catalog.list raws).tools, none, none⟩, [.bot Texts.greeting])

def rejection : GatewayError → Envelope
  | .unsupportedType _ => .error Texts.unsupportedType
  | _ => .error Texts.invalidMessage

def request (s : Session) (text : String) : Session × List Envelope :=
  ({s with call := some (.plan (Text.trim text))}, [.bot Texts.thinking])

-- The action is taken out before its call begins, so that no later frame finds it.
def settle (s : Session) (action : Action) (text : String) : Session × List Envelope :=
  match Reply.classify text with
  | .confirm => ({s with pending := none, call := some (.tool action)}, [.bot Texts.executing])
  | .cancel => ({s with pending := none}, [.bot Texts.cancelled])
  | .unclear => (s, [.bot Texts.askYesNo])

-- A frame reaches a session that waits for no call.
def receive (s : Session) (raw : String) : Session × List Envelope :=
  match UserMessage.userText raw with
  | .error e => (s, [rejection e])
  | .ok text =>
    match s.pending with
    | none => s.request text
    | some action => s.settle action text

def planned (s : Session) (reply : LlmReply) : Session × List Envelope :=
  match Planner.planOf reply with
  | .error e => (s, [.error (GatewayError.planning e).message])
  | .ok plan =>
    match plan.action? with
    | none => (s, [.bot Texts.noAction])
    | some action => ({s with pending := some action}, [.confirm (plan.confirmText action) action.payload])

def executed (result : CallResult) : Envelope :=
  match CallResult.delivered result with
  | .ok document => .result Texts.done document
  | .error e => .error (Texts.failedMark ++ (GatewayError.execution e).message)

-- An answer to anything but the call under way changes nothing.
def resume (s : Session) (answer : Answer) : Session × List Envelope :=
  match s.call, answer with
  | some (.plan _), .reply reply => {s with call := none}.planned reply
  | some (.tool _), .outcome result => ({s with call := none}, [executed result])
  | _, _ => (s, [])

def giveUp (s : Session) : Session := {s with call := none}

inductive Input where
  | frame (raw : String)
  | answer (answer : Answer)
  | drop

def step (s : Session) : Input → Option (Session × List Envelope)
  | .frame raw => if s.call.isNone then some (s.receive raw) else none
  | .answer (.reply reply) =>
    match s.call with
    | some (.plan _) => some (s.resume (.reply reply))
    | _ => none
  | .answer (.outcome result) =>
    match s.call with
    | some (.tool _) => some (s.resume (.outcome result))
    | _ => none
  | .drop => if s.call.isSome then some (s.giveUp, []) else none

end Session
end ToolGateway
