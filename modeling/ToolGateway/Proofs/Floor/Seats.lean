import ToolGateway.Proofs.Floor.Isolation
import ToolGateway.Proofs.Session.Transcript

namespace ToolGateway

theorem Session.Runs.step {descriptors : Except BackendError (List Json)} {trace : List Mark} {s next : Session}
    {input : Input} {out : List Envelope} (run : Runs descriptors trace s) (taken : s.step input = some (next, out)) :
    Runs descriptors (trace ++ marks s next out input) next := by
  obtain ⟨first, greeting, path, started, walked, rfl⟩ := run
  exact ⟨first, greeting, _, started, walked.step taken, List.append_assoc ..⟩

namespace Floor

open Session (Mark Runs Path marks)

def Act.envelope? : Act → Option Envelope
  | .sent e => some e
  | _ => none

-- What a trace of a session and the entries of a seat have in common.
structure Tells (catalog : List Tool) (trace : List Mark) (story : List Act) : Prop where
  envelopes : Session.envelopes trace = story.filterMap Act.envelope?
  calls : Session.toolCalls trace = story.filterMap Act.call?
  requests : (Session.questions trace).map (Planner.request catalog) = story.filterMap Act.request?

section
variable {catalog : List Tool} {trace added : List Mark} {story more : List Act} {s next : Session}
  {out : List Envelope}

theorem Tells.append (first : Tells catalog trace story) (second : Tells catalog added more) :
    Tells catalog (trace ++ added) (story ++ more) := by
  constructor
  · rw [Session.envelopes_append, List.filterMap_append, first.envelopes, second.envelopes]
  · rw [Session.toolCalls_append, List.filterMap_append, first.calls, second.calls]
  · rw [Session.questions_append, List.map_append, List.filterMap_append, first.requests, second.requests]

theorem tells_sent (catalog : List Tool) (out : List Envelope) :
    Tells catalog (out.map .sent) (out.map .sent) := by
  induction out with
  | nil => exact ⟨rfl, rfl, rfl⟩
  | cons e rest ih =>
    have first : Tells catalog [.sent e] [.sent e] := ⟨rfl, rfl, rfl⟩
    exact first.append ih

theorem tells_begun (catalog : List Tool) (call : Option Session.Call) :
    Tells catalog (call.toList.map .began) (call.toList.map (Act.begun catalog)) := by
  rcases call with _ | text | action <;> exact ⟨rfl, rfl, rfl⟩

theorem tells_frame (catalog : List Tool) (raw : String) (s next : Session) (out : List Envelope) :
    Tells catalog (marks s next out (.frame raw))
      (.heard raw :: (out.map .sent ++ next.call.toList.map (Act.begun catalog))) := by
  have heard : Tells catalog [.heard s.state raw] [.heard raw] := ⟨rfl, rfl, rfl⟩
  exact heard.append ((tells_sent catalog out).append (tells_begun catalog next.call))

theorem tells_answer (catalog : List Tool) (service : Service) (s : Session) (call : Session.Call) :
    Tells catalog (marks s (s.resume (service.finish call).1).1 (s.resume (service.finish call).1).2
      (.answer (service.finish call).1)) (finishActs service s call) := by
  have ended : Tells catalog [.ended (service.finish call).1] [.ended service call] := by
    cases call <;> exact ⟨rfl, rfl, rfl⟩
  exact ended.append (tells_sent catalog _)

end

-- The seat has run a session up to here; the session is gone once the seat is abandoned.
structure Lives (i : Nat) (floor : Floor) (story : List Act) (listing : Except BackendError (List Json))
    (s : Session) (trace : List Mark) : Prop where
  opened : .opened listing ∈ story
  run : Runs listing trace s
  tells : Tells s.catalog trace story
  taken : (floor.seats[i]?).isSome
  held : ∀ session, floor.sessionAt i = some session → session = s

inductive Seated (i : Nat) (floor : Floor) (story : List Act) : Prop where
  | free (empty : floor.seats[i]? = none) (nothing : Tells [] [] story)
  | failed (refused : ∃ e, .opened (.error e) ∈ story) (none : floor.sessionAt i = none)
      (taken : (floor.seats[i]?).isSome) (nothing : Tells [] [] story)
  | lives (listing : Except BackendError (List Json)) (s : Session) (trace : List Mark)
      (lives : Lives i floor story listing s trace)

section
variable {floor next : Floor} {i : Nat} {story more : List Act}
  {session after : Session} {call : Session.Call}

theorem Seated.kept (seated : Seated i floor story)
    (seat : (next.seats[i]?).isSome = (floor.seats[i]?).isSome)
    (held : ∀ session, next.sessionAt i = some session → floor.sessionAt i = some session)
    (quiet : ∀ catalog, Tells catalog [] more) : Seated i next (story ++ more) := by
  cases seated with
  | free empty nothing =>
    refine .free ?_ (nothing.append (quiet []))
    rwa [empty, Option.isSome_none, Option.isSome_eq_false_iff, Option.isNone_iff_eq_none] at seat
  | failed refused none taken nothing =>
    obtain ⟨e, opened⟩ := refused
    refine .failed ⟨e, List.mem_append_left more opened⟩ ?_ (seat.trans taken) (nothing.append (quiet []))
    cases present : next.sessionAt i with
    | none => rfl
    | some session => cases none.symm.trans (held session present)
  | lives listing s trace lives =>
    have tells := lives.tells.append (quiet s.catalog)
    rw [List.append_nil] at tells
    exact .lives listing s trace ⟨List.mem_append_left more lives.opened, lives.run, tells, seat.trans lives.taken,
      fun session present => lives.held session (held session present)⟩

theorem Seated.moved (seated : Seated i floor story) (same : next.seats[i]? = floor.seats[i]?) :
    Seated i next story := by
  have held : ∀ session, next.sessionAt i = some session → floor.sessionAt i = some session := by
    intro session present
    rwa [sessionAt, same] at present
  have still : Seated i next (story ++ []) :=
    seated.kept (by rw [same]) held (fun _ => ⟨rfl, rfl, rfl⟩)
  rwa [List.append_nil] at still

theorem Seated.advance {input : Session.Input} {out : List Envelope} (seated : Seated i floor story)
    (present : floor.sessionAt i = some session) (taken : session.step input = some (after, out))
    (goes : next.sessionAt i = some after) (tells : Tells session.catalog (marks session after out input) more) :
    Seated i next (story ++ more) := by
  cases seated with
  | free empty nothing => rw [sessionAt, empty] at present; cases present
  | failed refused none taken nothing => cases none.symm.trans present
  | lives listing s trace lives =>
    obtain rfl := lives.held session present
    obtain ⟨seat, there, _⟩ := Option.bind_eq_some_iff.mp goes
    have opened := List.mem_append_left more lives.opened
    refine .lives listing after _ ⟨opened, lives.run.step taken, ?_, by rw [there]; rfl, fun other held => ?_⟩
    · rw [(Session.step_sound taken).catalog]
      exact lives.tells.append tells
    · exact (Option.some.inj (goes.symm.trans held)).symm

theorem Seated.finish (seated : Seated i floor story) (present : floor.sessionAt i = some session)
    (busy : session.call = some call) :
    Seated i (floor.finish i session call) (story ++ finishActs floor.service session call) :=
  have taken := Session.step_answer busy (Session.finish_suits floor.service call)
  seated.advance present taken (sessionAt_put present _) (tells_answer session.catalog floor.service session call)

theorem Seated.begin (seated : Seated i floor (story ++ [.begun session.catalog call]))
    (present : floor.sessionAt i = some session) (busy : session.call = some call) :
    Seated i (floor.begin i session call) (story ++ floor.beginActs i session call) := by
  obtain ⟨line, _, ⟨ends, did⟩ | ⟨waits, did⟩⟩ := begin_cases floor i session call
  · let called : Floor := ⟨floor.seats, floor.service.begin session.catalog call, line⟩
    have moved : called.seats[i]? = floor.seats[i]? := rfl
    have goesOn : called.sessionAt i = some session := present
    rw [ends, did, List.append_cons]
    exact (seated.moved moved).finish goesOn busy
  · rw [waits, did]
    exact seated.moved rfl

theorem Seated.frame (seated : Seated i floor story) (raw : String) :
    Seated i (floor.frame i raw) (story ++ floor.frameActs i raw) := by
  rcases frame_cases floor i raw with
    ⟨_, kept, did⟩ | ⟨session, present, idle, heard⟩
  · rw [kept, did]
    exact seated.kept rfl (fun _ present => present) (fun _ => ⟨rfl, rfl, rfl⟩)
  · have taken := Session.step_frame idle raw
    have told := tells_frame session.catalog raw session (session.receive raw).1 (session.receive raw).2
    have goes := sessionAt_put present (session.receive raw)
    have advanced := seated.advance present taken goes told
    rcases heard with ⟨next, settled, did⟩ | ⟨call, next, begun, did⟩
    · rw [next, Option.toList_none, List.map_nil, List.append_nil] at advanced
      rw [settled, did]
      exact advanced
    · have same : (session.receive raw).1.catalog = session.catalog := (Session.step_sound taken).catalog
      rw [next, Option.toList_some, List.map_singleton, ← same, ← List.cons_append, ← List.append_assoc] at advanced
      rw [begun, did, ← List.cons_append, ← List.append_assoc]
      exact advanced.begin goes next

theorem Seated.proceed (seated : Seated i floor story) :
    Seated i (floor.proceed i) (story ++ floor.proceedActs i) := by
  rcases proceed_cases floor i with ⟨kept, did⟩ | ⟨session, call, gate, rest, present, busy, _, _, ended, did⟩
  · rw [kept, did, List.append_nil]
    exact seated
  · rw [ended, did]
    let passed : Floor := {floor with gate := some rest}
    have moved : passed.seats[i]? = floor.seats[i]? := rfl
    have goesOn : passed.sessionAt i = some session := present
    exact (seated.moved moved).finish goesOn busy

theorem Seated.start (seated : Seated i floor story) (here : floor.seats.length = i)
    (listing : Except BackendError (List Json)) : Seated i (floor.start listing) (story ++ startActs listing) := by
  have absent : floor.seats[i]? = none := List.getElem?_eq_none (Nat.le_of_eq here)
  have seat : (floor.start listing).seats[i]? = some (newSeat listing) := by
    rw [start_seats, ← here, List.getElem?_concat_length]
  have opened : .opened listing ∈ story ++ startActs listing := List.mem_append_right story List.mem_cons_self
  cases seated with
  | failed refused none taken nothing =>
    rw [absent] at taken
    cases taken
  | lives listing s trace lives =>
    have taken := lives.taken
    rw [absent] at taken
    cases taken
  | free empty nothing =>
    cases listing with
    | error e =>
      refine .failed ⟨e, opened⟩ ?_ (by rw [seat]; rfl) ?_
      · rw [sessionAt, seat]
        rfl
      · have quiet : Tells [] [] (startActs (.error e)) := ⟨rfl, rfl, rfl⟩
        exact nothing.append quiet
    | ok raws =>
      let first : Session := ⟨(Catalog.list raws).tools, none, none⟩
      have begins : Runs (.ok raws) [.sent (.bot Session.Texts.greeting)] first := ⟨first, _, [], rfl, .nil, rfl⟩
      have before : Tells first.catalog [] story := ⟨nothing.envelopes, nothing.calls, nothing.requests⟩
      have greeted : Tells first.catalog [.sent (.bot Session.Texts.greeting)] (startActs (.ok raws)) := ⟨rfl, rfl, rfl⟩
      refine .lives (.ok raws) first _
        ⟨opened, begins, before.append greeted, by rw [seat]; rfl, fun session held => ?_⟩
      rw [sessionAt, seat] at held
      exact (Option.some.inj held).symm

theorem Seated.disconnect (seated : Seated i floor story) :
    Seated i (floor.step (.disconnect i)) (story ++ [.cut]) := by
  refine seated.kept ?_ ?_ (fun _ => ⟨rfl, rfl, rfl⟩)
  · rw [Floor.step, seat_onSeat, Option.isSome_map]
  · exact fun _ present => (sessionAt_disconnect floor i).symm.trans present

theorem Seated.abandon (seated : Seated i floor story) :
    Seated i (floor.abandon i) (story ++ [.left]) := by
  refine seated.kept ?_ ?_ (fun _ => ⟨rfl, rfl, rfl⟩)
  · rw [Floor.abandon, seat_onSeat, Option.isSome_map]
  · exact fun _ present => by cases (sessionAt_abandon floor i).symm.trans present

theorem steady_seated (i : Nat) : Steady i (Seated i) where
  spared spares seated := seated.moved spares.seat
  start listing here seated := seated.start here listing
  frame raw seated := seated.frame raw
  disconnect seated := seated.disconnect
  abandon seated := seated.abandon
  proceed seated := seated.proceed

end

-- Where sessions can start, every seat taken stands at some point of a run of its own, on the tools listed for it, and
-- what it was sent, called and asked is what that run shows.
theorem seats_run_sessions (service : Service) (gate : Option Gate) (moves : List Move) (i : Nat) :
    Seated i ((⟨[], service, gate⟩ : Floor).follow moves) (own i ((⟨[], service, gate⟩ : Floor).record moves)) := by
  have empty : Seated i ⟨[], service, gate⟩ [] := .free rfl ⟨rfl, rfl, rfl⟩
  exact (steady_seated i).follow empty moves

end Floor
end ToolGateway
