namespace ToolGateway

structure Gate where
  free : Nat
  waiting : List Nat
  -- Callers that hold a permit and have not used it yet.
  granted : List Nat
  deriving DecidableEq, Repr

namespace Gate

def start (permits : Nat) : Gate := ⟨permits, [], []⟩

-- Passes at once on a free permit, else the caller joins the end of the line.
def enter (gate : Gate) (caller : Nat) : Bool × Gate :=
  match gate.free with
  | 0 => (false, {gate with waiting := gate.waiting ++ [caller]})
  | free + 1 => (true, {gate with free := free})

def add (gate : Gate) (permits : Nat) : Gate :=
  ⟨gate.free + (permits - gate.waiting.length), gate.waiting.drop permits,
    gate.granted ++ gate.waiting.take permits⟩

def pass (gate : Gate) (caller : Nat) : Option Gate :=
  if gate.granted.contains caller then some {gate with granted := gate.granted.erase caller} else none

-- A caller that goes away leaves the line, and a permit it held goes to the next one.
def leave (gate : Gate) (caller : Nat) : Gate :=
  let rest := {gate with waiting := gate.waiting.erase caller, granted := gate.granted.erase caller}
  if gate.granted.contains caller then rest.add 1 else rest

end Gate
end ToolGateway
