namespace ToolGateway

namespace Shutdown

inductive Reason where
  | userInitiated
  | signal
  deriving DecidableEq, Repr

-- A scope inside another one has a later number than it.
structure Scope where
  parent : Option Nat
  cancelled : Bool
  deriving DecidableEq, Repr

end Shutdown

structure Shutdown where
  scopes : List Shutdown.Scope
  managers : List Nat
  tokens : List Nat

namespace Shutdown

inductive Event where
  | manager
  | copy (manager : Nat)
  | token (manager : Nat)
  | child (token : Nat)
  | cancel (token : Nat)
  | shutdown (manager : Nat) (reason : Reason)

def addScope (s : Shutdown) (parent : Option Nat) : Shutdown :=
  {s with scopes := s.scopes ++ [⟨parent, false⟩]}

def cancelScope (s : Shutdown) (scope : Nat) : Shutdown :=
  {s with scopes := s.scopes.modify scope fun x => {x with cancelled := true}}

def newManager (s : Shutdown) : Shutdown :=
  {s.addScope none with managers := s.managers ++ [s.scopes.length]}

def start : Shutdown := newManager ⟨[], [], []⟩

def step (s : Shutdown) : Event → Shutdown
  | .manager => s.newManager
  | .copy i => {s with managers := s.managers ++ (s.managers[i]?).toList}
  | .token i => {s with tokens := s.tokens ++ (s.managers[i]?).toList}
  | .child i =>
    match s.tokens[i]? with
    | none => s
    | some scope => {s.addScope (some scope) with tokens := s.tokens ++ [s.scopes.length]}
  | .cancel i => (s.tokens[i]?).elim s s.cancelScope
  | .shutdown i _ => (s.managers[i]?).elim s s.cancelScope

-- A scope is cancelled by itself or by the scope around it, whose answer comes earlier in the list.
def flags (s : Shutdown) : List Bool :=
  s.scopes.foldl (fun known scope =>
    known ++ [scope.cancelled || (scope.parent.bind fun parent => known[parent]?).getD false]) []

def isCancelled (s : Shutdown) (token : Nat) : Bool :=
  ((s.tokens[token]?).bind fun scope => s.flags[scope]?).getD false

def view (s : Shutdown) : List Bool := (List.range s.tokens.length).map s.isCancelled

end Shutdown
end ToolGateway
