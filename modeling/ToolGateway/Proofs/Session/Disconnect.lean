import ToolGateway.Proofs.Session.Handling

namespace ToolGateway.Session

def Hangup.between (hangup : Hangup) (first last : Run) : Prop :=
  match hangup with
  | .never => False
  | .beforeFrame count => first.framesRead < count ∧ count ≤ last.framesRead
  | .afterFrame count => first.framesRead < count ∧ count ≤ last.framesRead
  | .atRequest count => first.service.requests.length < count ∧ count ≤ last.service.requests.length
  | .atToolCall count => first.service.calls.length < count ∧ count ≤ last.service.calls.length

-- What the client still has of the envelopes of the frame at which it goes away.
def Hangup.spares (hangup : Hangup) (block : List Envelope) : List Envelope :=
  match hangup with
  | .beforeFrame _ => []
  | .atRequest _ => block.take 1
  | .atToolCall _ => block.take 1
  | _ => block

namespace Run

-- A run beside the one of a client that never goes away.
structure Behind (cut whole : Run) : Prop where
  session : cut.session = whole.session
  service : cut.service = whole.service
  framesRead : cut.framesRead = whole.framesRead
  there : whole.connected = true
  received : cut.received <+: whole.received
  abreast : cut.connected = true → cut.received = whole.received

section
variable {run cut whole : Run} {hangup : Hangup} {call : Call} {raw : String}

theorem behind_refl (there : run.connected = true) : Behind run run :=
  ⟨rfl, rfl, rfl, there, List.prefix_rfl, fun _ => rfl⟩

theorem Behind.emit (behind : Behind cut whole) (out : List Envelope) : Behind (cut.emit out) (whole.emit out) where
  session := by simpa using behind.session
  service := by simpa using behind.service
  framesRead := by simpa using behind.framesRead
  there := by simpa using behind.there
  received := by
    rw [emit_received, emit_received, if_pos behind.there]
    cases connected : cut.connected with
    | true => rw [if_pos rfl, behind.abreast connected]
    | false => exact behind.received.trans (List.prefix_append _ _)
  abreast := fun still => by
    rw [emit_connected] at still
    rw [emit_received, emit_received, if_pos behind.there, if_pos still, behind.abreast still]

theorem Behind.leave (behind : Behind cut whole) (stays : Bool) :
    Behind {cut with connected := cut.connected && stays} whole :=
  {behind with abreast := fun still => behind.abreast (Bool.and_eq_true_iff.mp still).1}

theorem Behind.heard (behind : Behind cut whole) (raw : String) : Behind (cut.heard raw) (whole.heard raw) := by
  unfold Run.heard
  rw [behind.session]
  have moved : Behind {cut with session := (whole.session.receive raw).1}
      {whole with session := (whole.session.receive raw).1} := {behind with session := rfl}
  exact moved.emit _

theorem Behind.begun (behind : Behind cut whole) (hangup : Hangup) (call : Call) :
    Behind (cut.begun hangup call) (whole.begun .never call) := by
  have logged : Behind {cut with service := cut.service.begin cut.session.catalog call}
      {whole with service := whole.service.begin whole.session.catalog call} :=
    {behind with service := by rw [behind.service, behind.session]}
  have stays : whole.begun .never call = {whole with service := whole.service.begin whole.session.catalog call} := by
    cases call <;> simp [Run.begun, Hangup.strikes]
  rw [stays]
  exact logged.leave _

theorem Behind.ended (behind : Behind cut whole) (call : Call) : Behind (cut.ended call) (whole.ended call) := by
  unfold Run.ended
  rw [behind.session, behind.service]
  have moved : Behind {cut with
        service := (whole.service.finish call).2, session := (whole.session.resume (whole.service.finish call).1).1}
      {whole with
        service := (whole.service.finish call).2,
        session := (whole.session.resume (whole.service.finish call).1).1} :=
    {behind with session := rfl, service := rfl}
  exact moved.emit _

theorem Behind.handle (behind : Behind cut whole) (hangup : Hangup) (raw : String) :
    Behind (cut.handle hangup raw) (whole.handle .never raw) := by
  cases next : (cut.session.receive raw).1.call with
  | none =>
    rw [handle_quiet hangup next, handle_quiet .never (behind.session ▸ next)]
    exact behind.heard raw
  | some call =>
    rw [handle_busy hangup next, handle_busy .never (behind.session ▸ next)]
    exact ((behind.heard raw).begun hangup call).ended call

theorem Behind.turn (behind : Behind cut whole) (hangup : Hangup) (raw : String) :
    Behind (cut.turn hangup raw) (whole.turn .never raw) := by
  have stays (run : Run) : run.leave .never = run := by simp [Run.leave]
  have counted : Behind {cut with framesRead := cut.framesRead + 1} {whole with framesRead := whole.framesRead + 1} :=
    {behind with framesRead := by rw [behind.framesRead]}
  have arrives : whole.arrive .never = {whole with framesRead := whole.framesRead + 1} := by simp [Run.arrive]
  rw [Run.turn, Run.turn, stays, arrives]
  exact ((counted.leave _).handle hangup raw).leave _

theorem Behind.turns (behind : Behind cut whole) (hangup : Hangup) (raws : List String) :
    Behind (cut.turns hangup raws) (whole.turns .never raws) := by
  induction raws using List.reverseRecOn with
  | nil => exact behind
  | append_singleton raws raw ih =>
    rw [turns_concat, turns_concat]
    exact ih.turn hangup raw

theorem handle_framesRead (hangup : Hangup) (run : Run) (raw : String) :
    (run.handle hangup raw).framesRead = run.framesRead := by
  cases next : (run.session.receive raw).1.call with
  | none => rw [handle_quiet hangup next, heard_framesRead]
  | some call => rw [handle_busy hangup next, ended_framesRead, begun, heard_framesRead]

theorem turns_framesRead (hangup : Hangup) (run : Run) (raws : List String) :
    (run.turns hangup raws).framesRead = run.framesRead + raws.length := by
  induction raws using List.reverseRecOn with
  | nil => rfl
  | append_singleton raws raw ih =>
    rw [turns_concat]
    have counted : ((run.turns hangup raws).turn hangup raw).framesRead = (run.turns hangup raws).framesRead + 1 :=
      handle_framesRead _ _ _
    rw [counted, ih, List.length_append, List.length_singleton, Nat.add_assoc]

theorem handle_logs (hangup : Hangup) (run : Run) (raw : String) :
    ((run.handle hangup raw).service.requests = run.service.requests ∧
      (run.handle hangup raw).service.calls = run.service.calls ∧
      (run.handle hangup raw).connected = run.connected) ∨
    ∃ catalog call, (run.handle hangup raw).service.requests = (run.service.begin catalog call).requests ∧
      (run.handle hangup raw).service.calls = (run.service.begin catalog call).calls ∧
      (run.handle hangup raw).connected =
        (run.connected && !hangup.strikes (run.service.begin catalog call) call) := by
  cases next : (run.session.receive raw).1.call with
  | none =>
    rw [handle_quiet hangup next, heard_service, heard_connected]
    exact .inl ⟨rfl, rfl, rfl⟩
  | some call =>
    obtain ⟨requests, calls⟩ := finish_logs ((run.heard raw).begun hangup call).service call
    rw [handle_busy hangup next, ended_service, ended_connected, requests, calls, begun, heard_service,
      heard_connected]
    exact .inr ⟨_, call, rfl, rfl, rfl⟩

theorem turn_connected (hangup : Hangup) (run : Run) (raw : String) :
    (run.turn hangup raw).connected = true ↔
      run.connected = true ∧ ¬ hangup.between run (run.turn hangup raw) := by
  have counted : ((run.arrive hangup).handle hangup raw).framesRead = run.framesRead + 1 := handle_framesRead _ _ _
  have left : (run.turn hangup raw).connected =
    (((run.arrive hangup).handle hangup raw).connected && hangup ≠ .afterFrame (run.framesRead + 1)) := by
    rw [← counted]
    rfl
  have frames : (run.turn hangup raw).framesRead = run.framesRead + 1 := counted
  rcases handle_logs hangup (run.arrive hangup) raw with
    ⟨requests, calls, connected⟩ | ⟨catalog, call, requests, calls, connected⟩
  · have asked : (run.turn hangup raw).service.requests = run.service.requests := requests
    have called : (run.turn hangup raw).service.calls = run.service.calls := calls
    rw [left, connected]
    cases hangup <;> simp [Hangup.between, frames, asked, called, arrive] <;> omega
  · have asked : (run.turn hangup raw).service.requests = (run.service.begin catalog call).requests := requests
    have called : (run.turn hangup raw).service.calls = (run.service.begin catalog call).calls := calls
    rw [left, connected]
    cases call <;> cases hangup <;>
      simp [Hangup.between, frames, asked, called, arrive, Service.begin, Hangup.strikes] <;> omega

structure Grown (first last : Run) : Prop where
  frames : first.framesRead ≤ last.framesRead
  requests : first.service.requests.length ≤ last.service.requests.length
  calls : first.service.calls.length ≤ last.service.calls.length

theorem turns_grown (hangup : Hangup) (idle : run.session.call = none) (raws : List String) :
    Grown run (run.turns hangup raws) := by
  obtain ⟨trace, traced, _⟩ := turns_traced hangup idle raws
  refine ⟨?_, ?_, ?_⟩
  · rw [turns_framesRead]
    exact Nat.le_add_right _ _
  · rw [traced.requests, List.length_append]
    exact Nat.le_add_right _ _
  · rw [traced.calls, List.length_append]
    exact Nat.le_add_right _ _

theorem between_cut {first middle last : Run} (hangup : Hangup) (one : Grown first middle) (two : Grown middle last) :
    hangup.between first last ↔ hangup.between first middle ∨ hangup.between middle last := by
  obtain ⟨frames, requests, calls⟩ := one
  obtain ⟨frames', requests', calls'⟩ := two
  cases hangup with
  | never => exact ⟨.inl, fun away => away.elim id id⟩
  | _ =>
    simp only [Hangup.between]
    omega

theorem between_self (hangup : Hangup) (run : Run) : ¬ hangup.between run run := by
  cases hangup with
  | never => exact id
  | _ =>
    simp only [Hangup.between]
    omega

-- The client of a run is there exactly until its moment.
theorem turns_connected (hangup : Hangup) (idle : run.session.call = none) (raws : List String) :
    (run.turns hangup raws).connected = true ↔
      run.connected = true ∧ ¬ hangup.between run (run.turns hangup raws) := by
  induction raws using List.reverseRecOn with
  | nil => exact ⟨fun there => ⟨there, between_self hangup run⟩, And.left⟩
  | append_singleton raws raw ih =>
    obtain ⟨_, _, _, free⟩ := turns_traced hangup idle raws
    have cut := between_cut hangup (turns_grown hangup idle raws) (turns_grown hangup free [raw])
    have last : (run.turns hangup raws).turns hangup [raw] = (run.turns hangup raws).turn hangup raw := rfl
    rw [turns_concat, turn_connected, ih, ← last, cut, not_or, and_assoc]

theorem handle_gone (gone : run.connected = false) (hangup : Hangup) (raw : String) :
    (run.handle hangup raw).received = run.received := by
  have kept : (run.heard raw).received = run.received := by simp [heard_received, gone]
  cases next : (run.session.receive raw).1.call with
  | none => rw [handle_quiet hangup next, kept]
  | some call =>
    have away : ((run.heard raw).begun hangup call).connected = false := by simp [begun, gone]
    rw [handle_busy hangup next, ended_received, away]
    exact kept

theorem turns_gone (gone : run.connected = false) (hangup : Hangup) (raws : List String) :
    (run.turns hangup raws).connected = false ∧ (run.turns hangup raws).received = run.received := by
  induction raws using List.reverseRecOn with
  | nil => exact ⟨gone, rfl⟩
  | append_singleton raws raw ih =>
    obtain ⟨left, kept⟩ := ih
    rw [turns_concat]
    have arrived : ((run.turns hangup raws).arrive hangup).connected = false := by simp [arrive, left]
    refine ⟨?_, (handle_gone arrived hangup raw).trans kept⟩
    rw [← Bool.not_eq_true, turn_connected, left]
    simp

-- Only a call drives a client away in the middle of a frame.
theorem handle_strikes (there : run.connected = true) (gone : (run.handle hangup raw).connected = false)
    (block : List Envelope) : hangup.spares block = block.take 1 := by
  rcases handle_logs hangup run raw with ⟨_, _, connected⟩ | ⟨catalog, call, _, _, connected⟩
  · cases (connected.trans there).symm.trans gone
  · rw [gone, there] at connected
    cases hangup with
    | atRequest | atToolCall => rfl
    | _ => cases call <;> simp [Hangup.strikes] at connected

theorem handle_block (there : run.connected = true) (idle : run.session.call = none) (hangup : Hangup) (raw : String) :
    ∃ block, (run.handle .never raw).received = run.received ++ block ∧
      (run.handle hangup raw).received =
        run.received ++ if (run.handle hangup raw).connected then block else block.take 1 := by
  have shown : (run.heard raw).received = run.received ++ (run.session.receive raw).2 := by
    rw [heard_received, if_pos there]
  cases next : (run.session.receive raw).1.call with
  | none =>
    refine ⟨_, (congrArg received (handle_quiet .never next)).trans shown, ?_⟩
    rw [handle_quiet hangup next, shown, heard_connected, if_pos there]
  | some call =>
    rw [receive_opens idle next] at shown
    have stays : ((run.heard raw).begun .never call).connected = true := by
      cases call <;> simp [begun, there, Hangup.strikes]
    rw [handle_busy .never next, handle_busy hangup next, ended_connected, ended_received, ended_received,
      if_pos stays]
    refine ⟨opening call :: ?_, ?_, ?_⟩
    rotate_left
    · rw [begun, shown, List.append_assoc]
      rfl
    · split
      · rw [begun, shown, List.append_assoc]
        rfl
      · exact shown

theorem turn_loses (there : run.connected = true) (idle : run.session.call = none)
    (gone : (run.turn hangup raw).connected = false) :
    ∃ block, (run.turn .never raw).received = run.received ++ block ∧
      (run.turn hangup raw).received = run.received ++ hangup.spares block := by
  let counted : Run := {run with framesRead := run.framesRead + 1}
  have there : counted.connected = true := there
  have idle : counted.session.call = none := idle
  obtain ⟨block, sent, kept⟩ := handle_block there idle hangup raw
  have whole : run.arrive .never = counted := by simp [arrive, counted]
  refine ⟨block, by rw [← sent, ← whole]; rfl, ?_⟩
  by_cases before : hangup = .beforeFrame (run.framesRead + 1)
  · have away : (run.arrive hangup).connected = false := by simp [arrive, before]
    have frozen : (run.turn hangup raw).received = run.received := handle_gone away hangup raw
    rw [frozen, before]
    exact (List.append_nil _).symm
  · have still : run.arrive hangup = counted := by simp [arrive, before, counted]
    have same : (run.turn hangup raw).received = (counted.handle hangup raw).received := by rw [← still]; rfl
    rw [same, kept]
    cases connected : (counted.handle hangup raw).connected with
    | false => rw [handle_strikes there connected]; rfl
    | true =>
      have after : hangup = .afterFrame (counted.handle hangup raw).framesRead := by
        rw [turn, still, leave, connected] at gone
        simpa using gone
      rw [after]
      rfl

section
variable {front more raws : List String}

theorem frames_turns (there : run.connected = true) (hangup : Hangup) (raws : List String) :
    ∃ count ≤ raws.length, run.frames hangup raws = run.turns hangup (raws.take count) ∧
      (∀ k < count, (run.turns hangup (raws.take k)).connected = true) ∧
      (count < raws.length → (run.turns hangup (raws.take count)).connected = false) := by
  induction raws generalizing run with
  | nil => exact ⟨0, Nat.le_refl _, rfl, by simp, by simp⟩
  | cons raw rest ih =>
    cases after : (run.turn hangup raw).connected with
    | false =>
      refine ⟨1, by simp, by simp [frames, after, turns], fun k short => ?_, fun _ => after⟩
      obtain rfl : k = 0 := by omega
      exact there
    | true =>
      obtain ⟨count, within, same, earlier, stops⟩ := ih after
      refine ⟨count + 1, Nat.succ_le_succ within, ?_, fun k short => ?_,
        fun short => stops (Nat.lt_of_succ_lt_succ short)⟩
      · rw [frames]
        simp only [after, if_true]
        exact same
      · cases k with
        | zero => exact there
        | succ k => exact earlier k (Nat.lt_of_succ_lt_succ short)

theorem frames_never (there : run.connected = true) (raws : List String) :
    run.frames .never raws = run.turns .never raws := by
  obtain ⟨count, within, same, _, stops⟩ := frames_turns there .never raws
  have stays : (run.turns .never (raws.take count)).connected = true := ((behind_refl there).turns .never _).there
  have whole : raws.length ≤ count := by
    by_contra short
    cases stays.symm.trans (stops (Nat.lt_of_not_le short))
  rw [same, List.take_of_length_le whole]

theorem frames_append (there : run.connected = true) (gone : (run.turns hangup front).connected = false)
    (more : List String) : run.frames hangup (front ++ more) = run.frames hangup front := by
  induction front generalizing run with
  | nil => cases there.symm.trans gone
  | cons raw rest ih =>
    rw [List.cons_append, frames, frames]
    cases after : (run.turn hangup raw).connected with
    | false => rfl
    | true => exact ih after gone

end

end

end Run

section
variable {listing : Except BackendError (List Json)} {service : Service} {first : Run}

-- Wherever the client goes away, only what it receives ends there: with the envelopes before the frame, with the
-- opening of the call that it leaves in, or with the whole block. The run reads up to the frame that finds the
-- client gone, handles each frame to its end, and does not look for more.
theorem disconnect_transparent (started : Run.start listing service = .ok first) (hangup : Hangup) :
    (∀ raws, Run.Behind (first.turns hangup raws) (first.turns .never raws) ∧
      ((first.turns hangup raws).connected = true ↔ ¬ hangup.between first (first.turns .never raws))) ∧
    (∀ front raw back, (first.turns hangup front).connected = true →
      (first.turns hangup (front ++ [raw])).connected = false →
      ∃ block, (first.turns .never (front ++ [raw])).received = (first.turns .never front).received ++ block ∧
        (first.turns hangup (front ++ raw :: back)).received =
          (first.turns .never front).received ++ hangup.spares block) ∧
    (∀ raws, ∃ count ≤ raws.length, first.frames hangup raws = first.turns hangup (raws.take count) ∧
      (∀ k < count, (first.turns hangup (raws.take k)).connected = true) ∧
      (count < raws.length → (first.turns hangup (raws.take count)).connected = false) ∧
      ∃ trace, Runs listing (.sent (.bot Texts.greeting) :: trace) (first.frames hangup raws).session ∧
        Run.Traced first trace (first.frames hangup raws) ∧ framesTaken trace = raws.take count ∧
        (first.frames hangup raws).session.call = none) ∧
    ∀ (stream : Nat → String) count, (first.turns hangup ((List.range count).map stream)).connected = false →
      ∀ more ≥ count, first.frames hangup ((List.range more).map stream) =
        first.frames hangup ((List.range count).map stream) := by
  obtain ⟨opened, there, idle, greeted⟩ := Run.started_parts started
  refine ⟨fun raws => ?_, fun front raw back still gone => ?_, fun raws => ?_, fun stream count gone more later => ?_⟩
  · have behind := (Run.behind_refl there).turns hangup raws
    refine ⟨behind, ?_⟩
    have same : hangup.between first (first.turns hangup raws) ↔ hangup.between first (first.turns .never raws) := by
      cases hangup <;> simp only [Hangup.between, behind.framesRead, behind.service]
    rw [Run.turns_connected hangup idle raws, same]
    simp [there]
  · have behind := (Run.behind_refl there).turns hangup front
    obtain ⟨_, _, _, free⟩ := Run.turns_traced hangup idle front
    rw [Run.turns_concat] at gone
    obtain ⟨block, sent, kept⟩ := Run.turn_loses still free gone
    have stays : ((first.turns hangup front).turn .never raw).connected = true :=
      (Run.turn_connected .never _ raw).mpr ⟨still, id⟩
    have level : (first.turns hangup front).received = (first.turns .never front).received := behind.abreast still
    have whole : ((first.turns hangup front).turn .never raw).received =
        (first.turns .never (front ++ [raw])).received := by
      rw [Run.turns_concat]
      exact (behind.turn .never raw).abreast stays
    have after : first.turns hangup (front ++ raw :: back) =
        ((first.turns hangup front).turn hangup raw).turns hangup back := List.foldl_append
    rw [whole, level] at sent
    rw [level] at kept
    exact ⟨block, sent, by rw [after, (Run.turns_gone gone hangup back).2, kept]⟩
  · obtain ⟨count, within, same, earlier, stops⟩ := Run.frames_turns there hangup raws
    obtain ⟨trace, traced, took, free⟩ := Run.turns_traced hangup idle (raws.take count)
    rw [← same] at traced free
    have run : Runs listing (.sent (.bot Texts.greeting) :: trace) (first.frames hangup raws).session :=
      ⟨_, _, trace, opened, traced.path, by rw [greeted]; rfl⟩
    exact ⟨count, within, same, earlier, stops, trace, run, traced, took, free⟩
  · obtain ⟨extra, rfl⟩ := Nat.exists_eq_add_of_le later
    rw [List.range_add, List.map_append]
    exact Run.frames_append there gone _

end

namespace MidCall

def service : Service := Service.fresh [.ok SecondYes.plan] []
def first : Run := ⟨⟨[], none, none⟩, service, true, [.bot Texts.greeting], 0⟩
def stream : Nat → String
  | 0 => "[\"user\",\"go\"]"
  | _ => SecondYes.yes

theorem gone : (first.turns (.atToolCall 1) ((List.range 2).map stream)).connected = false := by decide +kernel

theorem called : (first.turns .never ((List.range 2).map stream)).service.calls.map Action.tool = ["t"] := by
  decide +kernel

end MidCall

theorem disconnect_transparent_mid_call :
    Run.start (.ok []) MidCall.service = .ok MidCall.first ∧
      (MidCall.first.turns (.atToolCall 1) ((List.range 2).map MidCall.stream)).service.calls.map Action.tool = ["t"] ∧
      MidCall.first.frames (.atToolCall 1) ((List.range 3).map MidCall.stream) =
        MidCall.first.frames (.atToolCall 1) ((List.range 2).map MidCall.stream) := by
  have started : Run.start (.ok []) MidCall.service = .ok MidCall.first := rfl
  obtain ⟨beside, _, _, endless⟩ := disconnect_transparent started (.atToolCall 1)
  refine ⟨started, ?_, endless MidCall.stream 2 MidCall.gone 3 (by decide)⟩
  rw [(beside _).1.service, MidCall.called]

end ToolGateway.Session
