import ToolGateway.Proofs.Planner.Request
import ToolGateway.Proofs.Session.Transcript

namespace ToolGateway.Session

def Mark.raw? : Mark → Option String
  | .heard _ raw => some raw
  | _ => none

def framesTaken (trace : List Mark) : List String := trace.filterMap Mark.raw?

theorem framesTaken_append (one two : List Mark) : framesTaken (one ++ two) = framesTaken one ++ framesTaken two :=
  List.filterMap_append

theorem toolCalls_frame (s next : Session) (out : List Envelope) (raw : String) :
    toolCalls (marks s next out (.frame raw)) = toolCalls (next.call.toList.map .began) := by
  have shape : toolCalls (marks s next out (.frame raw)) =
      toolCalls (out.map .sent ++ next.call.toList.map .began) := rfl
  rw [shape, toolCalls_append, toolCalls_sent, List.nil_append]

theorem toolCalls_answer (s next : Session) (out : List Envelope) (answer : Answer) :
    toolCalls (marks s next out (.answer answer)) = [] := toolCalls_sent out

theorem questions_answer (s next : Session) (out : List Envelope) (answer : Answer) :
    questions (marks s next out (.answer answer)) = [] := questions_sent out

theorem begin_calls (service : Service) (catalog : List Tool) (call : Call) :
    (service.begin catalog call).calls = service.calls ++ toolCalls [.began call] := by
  cases call with
  | plan text => exact (List.append_nil _).symm
  | tool action => rfl

theorem finish_logs (service : Service) (call : Call) :
    (service.finish call).2.requests = service.requests ∧ (service.finish call).2.calls = service.calls := by
  cases call with
  | plan text =>
    simp only [Service.finish, Service.takeReply]
    split <;> exact ⟨rfl, rfl⟩
  | tool action =>
    simp only [Service.finish, Service.takeOutcome]
    split <;> exact ⟨rfl, rfl⟩

-- A frame that causes a call has sent its opening alone before.
theorem receive_opens {s : Session} {raw : String} {call : Call} (idle : s.call = none)
    (busy : (s.receive raw).1.call = some call) : (s.receive raw).2 = [opening call] := by
  obtain ⟨_, ⟨quiet, _⟩ | ⟨other, begins, opened⟩⟩ := frame_block (step_sound (step_frame idle raw))
  · cases quiet.symm.trans busy
  · cases begins.symm.trans busy
    exact opened

namespace Run

section
variable {run middle next : Run} {one two trace : List Mark} {call : Call} {hangup : Hangup} {raw : String}

@[simp] theorem emit_session (run : Run) (out : List Envelope) : (run.emit out).session = run.session := by
  unfold emit
  split <;> rfl

@[simp] theorem emit_service (run : Run) (out : List Envelope) : (run.emit out).service = run.service := by
  unfold emit
  split <;> rfl

@[simp] theorem emit_connected (run : Run) (out : List Envelope) : (run.emit out).connected = run.connected := by
  unfold emit
  split <;> rfl

@[simp] theorem emit_framesRead (run : Run) (out : List Envelope) : (run.emit out).framesRead = run.framesRead := by
  unfold emit
  split <;> rfl

theorem emit_received (run : Run) (out : List Envelope) :
    (run.emit out).received = if run.connected then run.received ++ out else run.received := by
  unfold emit
  split <;> rfl

def heard (run : Run) (raw : String) : Run :=
  {run with session := (run.session.receive raw).1}.emit (run.session.receive raw).2

def begun (hangup : Hangup) (run : Run) (call : Call) : Run :=
  let service := run.service.begin run.session.catalog call
  {run with service := service, connected := run.connected && !hangup.strikes service call}

def ended (run : Run) (call : Call) : Run :=
  let (answer, service) := run.service.finish call
  {run with service := service, session := (run.session.resume answer).1}.emit (run.session.resume answer).2

@[simp] theorem heard_session (run : Run) (raw : String) :
    (run.heard raw).session = (run.session.receive raw).1 := emit_session _ _

@[simp] theorem heard_service (run : Run) (raw : String) : (run.heard raw).service = run.service := emit_service _ _

@[simp] theorem heard_connected (run : Run) (raw : String) : (run.heard raw).connected = run.connected :=
  emit_connected _ _

@[simp] theorem heard_framesRead (run : Run) (raw : String) : (run.heard raw).framesRead = run.framesRead :=
  emit_framesRead _ _

theorem heard_received (run : Run) (raw : String) : (run.heard raw).received =
    if run.connected then run.received ++ (run.session.receive raw).2 else run.received := emit_received _ _

@[simp] theorem ended_service (run : Run) (call : Call) :
    (run.ended call).service = (run.service.finish call).2 := emit_service _ _

@[simp] theorem ended_connected (run : Run) (call : Call) : (run.ended call).connected = run.connected :=
  emit_connected _ _

@[simp] theorem ended_framesRead (run : Run) (call : Call) : (run.ended call).framesRead = run.framesRead :=
  emit_framesRead _ _

theorem ended_received (run : Run) (call : Call) : (run.ended call).received =
    if run.connected then run.received ++ (run.session.resume (run.service.finish call).1).2 else run.received :=
  emit_received _ _

theorem handle_quiet (hangup : Hangup) (quiet : (run.session.receive raw).1.call = none) :
    run.handle hangup raw = run.heard raw := by
  simp only [handle, quiet]
  rfl

theorem handle_busy (hangup : Hangup) (busy : (run.session.receive raw).1.call = some call) :
    run.handle hangup raw = ((run.heard raw).begun hangup call).ended call := by
  simp only [handle, busy]
  rfl

-- What the outside has seen of a run is what a path of its session shows.
structure Traced (run : Run) (trace : List Mark) (next : Run) : Prop where
  path : Path run.session trace next.session
  kept : .gaveUp ∉ trace
  requests : next.service.requests = run.service.requests ++ Session.requests run.session.catalog trace
  calls : next.service.calls = run.service.calls ++ toolCalls trace
  there : next.connected = true → run.connected = true
  received : next.connected = true → next.received = run.received ++ envelopes trace

theorem Traced.append (first : Traced run one middle) (second : Traced middle two next) :
    Traced run (one ++ two) next where
  path := first.path.append second.path
  kept := by simp [first.kept, second.kept]
  requests := by
    rw [second.requests, first.requests, first.path.catalog, Session.requests, Session.requests, Session.requests,
      questions_append, List.map_append, List.append_assoc]
  calls := by rw [second.calls, first.calls, toolCalls_append, List.append_assoc]
  there := first.there ∘ second.there
  received := fun still => by
    rw [second.received still, first.received (second.there still), envelopes_append, List.append_assoc]

theorem frame_traced (raw : String) (next : Run) (idle : run.session.call = none)
    (same : next.session = (run.session.receive raw).1)
    (asked : next.service.requests =
      run.service.requests ++ Session.requests run.session.catalog (next.session.call.toList.map .began))
    (called : next.service.calls = run.service.calls ++ toolCalls (next.session.call.toList.map .began))
    (there : next.connected = true → run.connected = true) (shown : next.received = (run.heard raw).received) :
    ∃ trace, Traced run trace next ∧ framesTaken trace = [raw] := by
  have taken : run.session.step (.frame raw) = some (next.session, (run.session.receive raw).2) := by
    rw [step_frame idle, same]
  refine ⟨marks run.session next.session (run.session.receive raw).2 (.frame raw),
    ⟨.step .nil taken, ?_, ?_, ?_, there, fun still => ?_⟩, ?_⟩
  · simp [marks]
  · rw [asked, Session.requests, Session.requests, questions_frame]
  · rw [called, toolCalls_frame]
  · rw [shown, heard_received, if_pos (there still), envelopes_marks taken]
  · have rest : ((run.session.receive raw).2.map Mark.sent ++ next.session.call.toList.map Mark.began).filterMap
        Mark.raw? = [] := by
      simp [List.filterMap_append, List.filterMap_map, Function.comp_def, Mark.raw?]
    rw [framesTaken, marks, List.filterMap_cons_some (show Mark.raw? _ = some raw from rfl), rest]

theorem ended_traced (busy : run.session.call = some call) :
    ∃ trace, Traced run trace (run.ended call) ∧ framesTaken trace = [] ∧ (run.ended call).session.call = none := by
  have taken := step_answer busy (finish_suits run.service call)
  obtain ⟨requests, calls⟩ := finish_logs run.service call
  rcases resumed : run.session.resume (run.service.finish call).1 with ⟨after, out⟩
  rw [resumed] at taken
  have same : (run.ended call).session = after := (emit_session _ _).trans (congrArg Prod.fst resumed)
  refine ⟨marks run.session after out (.answer (run.service.finish call).1),
    ⟨?_, ?_, ?_, ?_, fun still => ?_, fun still => ?_⟩, ?_, ?_⟩
  · rw [same]
    exact .step .nil taken
  · simp [marks]
  · rw [ended_service, requests, Session.requests, questions_answer, List.map_nil, List.append_nil]
  · rw [ended_service, calls, toolCalls_answer, List.append_nil]
  · rwa [ended_connected] at still
  · rw [ended_connected] at still
    rw [ended_received, if_pos still, resumed, envelopes_marks taken]
  · simp [framesTaken, marks, Mark.raw?]
  · rw [same]
    exact (step_sound taken).idle

theorem handle_traced (hangup : Hangup) (idle : run.session.call = none) (raw : String) :
    ∃ trace, Traced run trace (run.handle hangup raw) ∧ framesTaken trace = [raw] ∧
      (run.handle hangup raw).session.call = none := by
  have catalog : (run.session.receive raw).1.catalog = run.session.catalog :=
    (step_sound (step_frame idle raw)).catalog
  cases next : (run.session.receive raw).1.call with
  | none =>
    have quiet : (run.heard raw).session.call = none := by rw [heard_session, next]
    rw [handle_quiet hangup next]
    obtain ⟨trace, traced, took⟩ := frame_traced raw (run.heard raw) idle (heard_session run raw)
      (by rw [quiet, heard_service]; exact (List.append_nil _).symm)
      (by rw [quiet, heard_service]; exact (List.append_nil _).symm) (by rw [heard_connected]; exact id) rfl
    exact ⟨trace, traced, took, quiet⟩
  | some call =>
    have begins : ((run.heard raw).begun hangup call).session.call = some call := by rw [begun, heard_session, next]
    have stays : ((run.heard raw).begun hangup call).connected = true → run.connected = true :=
      fun still => heard_connected run raw ▸ (Bool.and_eq_true_iff.mp still).1
    rw [handle_busy hangup next]
    obtain ⟨trace, traced, took⟩ := frame_traced raw ((run.heard raw).begun hangup call) idle (heard_session run raw)
      (by rw [begins, begun, heard_service, heard_session, catalog]; exact begin_requests run.service _ call)
      (by rw [begins, begun, heard_service]; exact begin_calls run.service _ call) stays rfl
    obtain ⟨rest, ending, none, idle⟩ := ended_traced begins
    exact ⟨trace ++ rest, traced.append ending, by rw [framesTaken_append, took, none]; rfl, idle⟩

theorem turn_traced (hangup : Hangup) (idle : run.session.call = none) (raw : String) :
    ∃ trace, Traced run trace (run.turn hangup raw) ∧ framesTaken trace = [raw] ∧
      (run.turn hangup raw).session.call = none := by
  have idle : (run.arrive hangup).session.call = none := idle
  obtain ⟨trace, traced, took, free⟩ := handle_traced hangup idle raw
  have stays : (run.turn hangup raw).connected = true → ((run.arrive hangup).handle hangup raw).connected = true :=
    fun still => (Bool.and_eq_true_iff.mp still).1
  have came : (run.arrive hangup).connected = true → run.connected = true :=
    fun still => (Bool.and_eq_true_iff.mp still).1
  exact ⟨trace, ⟨traced.path, traced.kept, traced.requests, traced.calls,
    fun still => came (traced.there (stays still)), fun still => traced.received (stays still)⟩, took, free⟩

theorem started_parts {listing : Except BackendError (List Json)} {service : Service} {first : Run}
    (started : Run.start listing service = .ok first) :
    Session.start listing = .ok (first.session, first.received) ∧ first.connected = true ∧
      first.session.call = none ∧ first.received = [.bot Texts.greeting] := by
  unfold Run.start at started
  cases listing with
  | error e => cases started
  | ok raws =>
    cases started
    exact ⟨rfl, rfl, rfl, rfl⟩

-- Frames handled one by one, whether or not the client is still there.
def turns (hangup : Hangup) (run : Run) (raws : List String) : Run := raws.foldl (turn hangup) run

theorem turns_concat (hangup : Hangup) (run : Run) (raws : List String) (raw : String) :
    run.turns hangup (raws ++ [raw]) = (run.turns hangup raws).turn hangup raw := by
  rw [turns, turns, List.foldl_append]
  rfl

theorem turns_traced (hangup : Hangup) (idle : run.session.call = none) (raws : List String) :
    ∃ trace, Traced run trace (run.turns hangup raws) ∧ framesTaken trace = raws ∧
      (run.turns hangup raws).session.call = none := by
  induction raws using List.reverseRecOn with
  | nil =>
    have still : Traced run [] run :=
      ⟨.nil, by simp, (List.append_nil _).symm, (List.append_nil _).symm, id, fun _ => (List.append_nil _).symm⟩
    exact ⟨[], still, rfl, idle⟩
  | append_singleton raws raw ih =>
    obtain ⟨trace, traced, took, free⟩ := ih
    obtain ⟨more, next, one, done⟩ := turn_traced hangup free raw
    rw [turns_concat]
    exact ⟨trace ++ more, traced.append next, by rw [framesTaken_append, took, one], done⟩

end

end Run
end ToolGateway.Session
