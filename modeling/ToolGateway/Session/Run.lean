import ToolGateway.Session.Service

namespace ToolGateway.Session

-- When the client goes away; frames and calls are counted from one.
inductive Hangup where
  | never
  | beforeFrame (count : Nat)
  | atRequest (count : Nat)
  | atToolCall (count : Nat)
  -- The frame is handled, but the run has not looked yet.
  | afterFrame (count : Nat)
  deriving DecidableEq, Repr

-- Whether the client goes away as this call begins; the service has logged the call already.
def Hangup.strikes (hangup : Hangup) (service : Service) : Call → Bool
  | .plan _ => hangup = .atRequest service.requests.length
  | .tool _ => hangup = .atToolCall service.calls.length

structure Run where
  session : Session
  service : Service
  connected : Bool
  received : List Envelope
  framesRead : Nat

namespace Run

def emit (run : Run) (out : List Envelope) : Run :=
  if run.connected then {run with received := run.received ++ out} else run

def call (hangup : Hangup) (run : Run) (call : Call) : Run :=
  let service := run.service.begin run.session.catalog call
  let run := {run with service := service, connected := run.connected && !hangup.strikes service call}
  let (answer, service) := run.service.finish call
  let (session, out) := run.session.resume answer
  {run with service := service, session := session}.emit out

def handle (hangup : Hangup) (run : Run) (raw : String) : Run :=
  let (session, out) := run.session.receive raw
  let run := {run with session := session}.emit out
  match session.call with
  | none => run
  | some pending => run.call hangup pending

def arrive (hangup : Hangup) (run : Run) : Run :=
  let count := run.framesRead + 1
  {run with framesRead := count, connected := run.connected && hangup ≠ .beforeFrame count}

def leave (hangup : Hangup) (run : Run) : Run :=
  {run with connected := run.connected && hangup ≠ .afterFrame run.framesRead}

def turn (hangup : Hangup) (run : Run) (raw : String) : Run :=
  ((run.arrive hangup).handle hangup raw).leave hangup

def frames (hangup : Hangup) : Run → List String → Run
  | run, [] => run
  | run, raw :: rest =>
    let run := run.turn hangup raw
    if run.connected then run.frames hangup rest else run

def start (listing : Except BackendError (List Json)) (service : Service) : Except GatewayError Run :=
  (Session.start listing).map fun (session, out) => ⟨session, service, true, out, 0⟩

end Run
end ToolGateway.Session
