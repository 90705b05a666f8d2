import ToolGateway.Proofs.Floor.Isolation

namespace ToolGateway

namespace Session

-- The envelope for a frame that is no text of a user, whatever session gets it.
def refusal (raw : String) : Option Envelope :=
  match UserMessage.decode? raw with
  | none => some (.error Texts.invalidMessage)
  | some message => if message.kind = UserMessage.userKind then none else some (.error Texts.unsupportedType)

def undecided (s : Session) (raw : String) : Bool :=
  match UserMessage.userText raw with
  | .error _ => false
  | .ok text => s.pending.isSome && Reply.classify text = .unclear

theorem refusal_exact {raw : String} {e : Envelope} :
    refusal raw = some e ↔ ∃ error, UserMessage.userText raw = .error error ∧ rejection error = e := by
  unfold refusal UserMessage.userText
  cases UserMessage.decode? raw with
  | none => simp [rejection]
  | some message => by_cases user : message.kind = UserMessage.userKind <;> simp [user, rejection]

example : refusal "[\"ping\",\"go\"]" = some (.error Texts.unsupportedType) := by cbv

theorem receive_refused {raw : String} {e : Envelope} (refused : refusal raw = some e) (s : Session) :
    s.receive raw = (s, [e]) := by
  obtain ⟨error, heard, rfl⟩ := refusal_exact.mp refused
  simp only [receive, heard]

theorem receive_undecided {s : Session} {raw : String} (unclear : s.undecided raw = true) :
    s.receive raw = (s, [.bot Texts.askYesNo]) := by
  unfold undecided at unclear
  unfold receive
  cases heard : UserMessage.userText raw with
  | error e => rw [heard] at unclear; cases unclear
  | ok text =>
    simp only [heard, Bool.and_eq_true, decide_eq_true_eq] at unclear
    obtain ⟨action, shown⟩ := Option.isSome_iff_exists.mp unclear.1
    simp only [shown, settle, unclear.2]

end Session

namespace Floor

section
variable {floor one two : Floor} {i : Nat} {raw : String} {session : Session} {e : Envelope}

theorem onSeat_id (floor : Floor) (i : Nat) : floor.onSeat i id = floor := by
  simp [onSeat]

theorem onSeat_congr {change other : Seat → Seat}
    (same : ∀ seat, floor.seats[i]? = some seat → change seat = other seat) :
    floor.onSeat i change = floor.onSeat i other := by
  unfold onSeat
  congr 1
  refine List.ext_getElem? fun j => ?_
  by_cases here : i = j
  · subst here
    cases there : floor.seats[i]? with
    | none => simp [there]
    | some seat => simp [there, same seat there]
  · simp [here]

theorem frame_answered (present : floor.sessionAt i = some session) (idle : session.call = none)
    (answered : session.receive raw = (session, [e])) :
    floor.step (.frame i raw) = floor.onSeat i (fun seat => seat.emit [e]) ∧
      floor.acts (.frame i raw) = tagged i [.heard raw, .sent e] := by
  have next : (session.receive raw).1.call = none := by rw [answered, idle]
  obtain ⟨settled, did⟩ := frame_settled present idle next
  rw [step, acts, settled, did, answered]
  refine ⟨onSeat_congr fun seat there => ?_, rfl⟩
  have held : seat.session = some session := by rwa [sessionAt, there] at present
  rw [← held]

theorem frame_ignored (raw : String) (deaf : ∀ session, floor.sessionAt i = some session → session.call ≠ none) :
    floor.step (.frame i raw) = floor.onSeat i (fun seat => seat.emit []) ∧
      floor.acts (.frame i raw) = tagged i [.heard raw] := by
  obtain ⟨kept, did⟩ := frame_unheard raw deaf
  have silent : floor.onSeat i (fun seat => seat.emit []) = floor.onSeat i id := by
    refine onSeat_congr fun seat _ => ?_
    unfold Seat.emit
    rw [List.append_nil, ite_self]
    rfl
  rw [step, acts, kept, did, silent, onSeat_id]
  exact ⟨rfl, rfl⟩

inductive Stutter (floor : Floor) (i : Nat) (raw : String) : List Envelope → Prop where
  | refused {session : Session} {e : Envelope} (present : floor.sessionAt i = some session) (idle : session.call = none)
      (refused : Session.refusal raw = some e) : Stutter floor i raw [e]
  | undecided {session : Session} (present : floor.sessionAt i = some session) (idle : session.call = none)
      (unclear : session.undecided raw = true) : Stutter floor i raw [.bot Session.Texts.askYesNo]
  | unheard (deaf : ∀ session, floor.sessionAt i = some session → session.call ≠ none)
      (refused : (Session.refusal raw).isSome = true) : Stutter floor i raw []

theorem Stutter.answered {said : List Envelope} (stutter : Stutter floor i raw said) :
    floor.step (.frame i raw) = floor.onSeat i (fun seat => seat.emit said) ∧
      floor.acts (.frame i raw) = tagged i (.heard raw :: said.map .sent) := by
  cases stutter with
  | refused present idle refused => exact frame_answered present idle (Session.receive_refused refused _)
  | undecided present idle unclear => exact frame_answered present idle (Session.receive_undecided unclear)
  | unheard deaf refused => exact frame_ignored raw deaf

end

-- Between a request and its yes there are a text that is no frame, a frame of another type and an unclear reply.
namespace Stuttering

def request : Event := .frame 0 "[\"user\",\"go\"]"
def yes : Event := .frame 0 "[\"user\",\"yes\"]"
def floor : Floor := ⟨[], .fresh [.ok "\x7b\"tool\":\"t\"\x7d"] [], none⟩
def plain : List Event := [.start (.ok []), request, yes]
end Stuttering

end Floor
end ToolGateway
