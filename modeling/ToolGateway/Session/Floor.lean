import ToolGateway.Session.Gate
import ToolGateway.Session.Service

namespace ToolGateway

structure Seat where
  -- None once the session is gone, or when it could not start.
  session : Option Session
  connected : Bool
  outbox : List Envelope

namespace Seat

def emit (seat : Seat) (out : List Envelope) : Seat :=
  if seat.connected then {seat with outbox := seat.outbox ++ out} else seat

def collect (seat : Seat) : List Envelope × Seat := (seat.outbox, {seat with outbox := []})

def busy (seat : Seat) : Bool := (seat.session.bind Session.call).isSome

end Seat

structure Floor where
  seats : List Seat
  service : Service
  gate : Option Gate

namespace Floor

inductive Event where
  -- A client comes; the backend lists its tools for it.
  | start (listing : Except BackendError (List Json))
  | frame (seat : Nat) (raw : String)
  | push (reply : LlmReply)
  | disconnect (seat : Nat)
  | abandon (seat : Nat)
  | permit (count : Nat)

def onSeat (floor : Floor) (i : Nat) (change : Seat → Seat) : Floor :=
  {floor with seats := floor.seats.modify i change}

def sessionAt (floor : Floor) (i : Nat) : Option Session := (floor.seats[i]?).bind Seat.session

-- A new session takes the next seat, whether or not it can start.
def start (floor : Floor) (listing : Except BackendError (List Json)) : Floor :=
  match Session.start listing with
  | .error _ => {floor with seats := floor.seats ++ [⟨none, true, []⟩]}
  | .ok (session, out) => {floor with seats := floor.seats ++ [⟨some session, true, out⟩]}

def put (floor : Floor) (i : Nat) (after : Session × List Envelope) : Floor :=
  floor.onSeat i fun seat => {seat with session := some after.1}.emit after.2

def finish (floor : Floor) (i : Nat) (session : Session) (call : Session.Call) : Floor :=
  let (answer, service) := floor.service.finish call
  {floor with service := service}.put i (session.resume answer)

-- The call of a seat begins; it ends at once unless it has to wait at the gate.
def begin (floor : Floor) (i : Nat) (session : Session) (call : Session.Call) : Floor :=
  let floor := {floor with service := floor.service.begin session.catalog call}
  match call, floor.gate with
  | .tool _, some gate =>
    let (through, gate) := gate.enter i
    let floor := {floor with gate := some gate}
    if through then floor.finish i session call else floor
  | _, _ => floor.finish i session call

def frame (floor : Floor) (i : Nat) (raw : String) : Floor :=
  match floor.sessionAt i with
  | none => floor
  | some session =>
    if session.call.isSome then floor
    else
      let after := session.receive raw
      let floor := floor.put i after
      match after.1.call with
      | none => floor
      | some call => floor.begin i after.1 call

def abandon (floor : Floor) (i : Nat) : Floor :=
  let left : Floor := {floor with gate := floor.gate.map fun gate => gate.leave i}
  left.onSeat i fun seat => {seat with session := none}

def proceed (floor : Floor) (i : Nat) : Floor :=
  match floor.sessionAt i, floor.gate.bind fun gate => gate.pass i with
  | some session, some gate =>
    match session.call with
    | some call => {floor with gate := some gate}.finish i session call
    | none => floor
  | _, _ => floor

-- Seats go on in the order of their numbers.
def permit (floor : Floor) (count : Nat) : Floor :=
  (List.range floor.seats.length).foldl proceed {floor with gate := floor.gate.map fun gate => gate.add count}

def step (floor : Floor) : Event → Floor
  | .start listing => floor.start listing
  | .frame i raw => floor.frame i raw
  | .push reply => {floor with service := {floor.service with replies := floor.service.replies ++ [reply]}}
  | .disconnect i => floor.onSeat i fun seat => {seat with connected := false, outbox := []}
  | .abandon i => floor.abandon i
  | .permit count => floor.permit count

def run (floor : Floor) (events : List Event) : Floor := events.foldl step floor

end Floor
end ToolGateway
