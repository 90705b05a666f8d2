import ToolGateway.Error
import ToolGateway.Net.Address

namespace ToolGateway.Net

structure Host where
  -- None when the address can be bound, else the reason.
  bindFailure : Address → Option String
  -- None when connections can be made, else the reason.
  connectFailure : Option String

def unreachable : String := "Network is unreachable (os error 101)"
def unavailable : String := "Cannot assign requested address (os error 99)"
def invalidArgument : String := "Invalid argument (os error 22)"
def noDevice : String := "No such device (os error 19)"

def onlyInterface : Nat := 1

-- A group address cannot be listened on; an address of one link must name the link.
def ipv6Failure (groups : List Nat) (scope : Nat) : Option String :=
  let first := groups.headD 0
  if groups.all (· = 0) then none
  else if groups.take 6 = [0, 0, 0, 0, 0, 65535] then none
  else if 0xFF00 ≤ first then some invalidArgument
  else if 0xFE80 ≤ first ∧ first < 0xFEC0 then
    if scope = 0 then some invalidArgument
    else if scope = onlyInterface then some unavailable
    else some noDevice
  else some unavailable

def isolatedFailure (address : Address) : Option String :=
  match address.ip with
  | .v4 _ => none
  | .v6 groups scope => ipv6Failure groups scope

def Host.isolated : Host := ⟨isolatedFailure, some unreachable⟩

def Host.willing : Host := ⟨fun _ => none, none⟩

def invalidAddress : String := "invalid socket address syntax"

-- Serving ends well once it was bound; the gateway is told to stop.
def Host.serve (host : Host) (bindAddr : String) : Except GatewayError Unit :=
  match Address.parse? bindAddr with
  | none => .error (.bind (bindAddr ++ ": " ++ invalidAddress))
  | some address =>
    match host.bindFailure address with
    | none => .ok ()
    | some reason => .error (.bind (address.text ++ ": " ++ reason))

end ToolGateway.Net
