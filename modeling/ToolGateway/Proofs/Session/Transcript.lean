import ToolGateway.Proofs.Session.Approval

namespace ToolGateway.Session

def Mark.envelope : Mark → Option Envelope
  | .sent e => some e
  | _ => none

def envelopes (trace : List Mark) : List Envelope := trace.filterMap Mark.envelope

inductive Block : List Envelope → Prop where
  | invalid : Block [.error Texts.invalidMessage]
  | unsupported : Block [.error Texts.unsupportedType]
  | unplanned (e : LlmError) : Block [.bot Texts.thinking, .error ("LLM error: " ++ e.message)]
  | actionless : Block [.bot Texts.thinking, .bot Texts.noAction]
  | proposed (text : String) (action : Action) : Block [.bot Texts.thinking, .confirm text action.payload]
  | executed (document : Json) : Block [.bot Texts.executing, .result Texts.done document]
  | failed (reason : String) : Block [.bot Texts.executing, .error ("❌ Execution failed: " ++ reason)]
  | cancelled : Block [.bot Texts.cancelled]
  | unclear : Block [.bot Texts.askYesNo]

-- What is out already while a call is under way.
def opening : Call → Envelope
  | .plan _ => .bot Texts.thinking
  | .tool _ => .bot Texts.executing

def Mark.isFrame : Mark → Bool
  | .heard _ _ => true
  | _ => false

-- The marks of one frame, and of no other, up to its end. A frame given up stays at its opening.
def Round (round : List Mark) : Prop :=
  ∃ state raw rest, round = .heard state raw :: rest ∧ (∀ mark ∈ rest, mark.isFrame = false) ∧
    (.gaveUp ∉ rest ∧ Block (envelopes rest) ∨ .gaveUp ∈ rest ∧ ∃ call, envelopes rest = [opening call])

def Unfinished : Option Call → List Mark → Prop
  | none, part => part = []
  | some call, part => ∃ state raw, part = [.heard state raw, .sent (opening call), .began call]

-- The action that a client believes to be pending, carried over one envelope.
def heed (pending : Option Json) (e : Envelope) : Option Json :=
  match e.kind with
  | .confirm => e.payload
  | .bot => if e.text = Texts.executing ∨ e.text = Texts.cancelled then none else pending
  | _ => pending

def believed (out : List Envelope) : Option Json := out.foldl heed none

section
variable {origin s next : Session} {trace : List Mark} {raw : String} {answer : Answer} {input : Input}
  {out : List Envelope}

theorem envelopes_sent (out : List Envelope) : envelopes (out.map .sent) = out := by
  induction out with
  | nil => rfl
  | cons e rest ih => simpa [envelopes, Mark.envelope] using ih

theorem envelopes_append (one two : List Mark) : envelopes (one ++ two) = envelopes one ++ envelopes two :=
  List.filterMap_append

theorem rejection_block (e : GatewayError) : Block [rejection e] := by
  cases e with
  | unsupportedType => exact .unsupported
  | _ => exact .invalid

theorem executed_block (result : CallResult) : Block [.bot Texts.executing, Session.executed result] := by
  unfold Session.executed
  cases result.delivered with
  | ok document => exact .executed document
  | error e =>
    have joined : "❌ " ++ "Execution failed: " = "❌ Execution failed: " := by decide
    have wording : Texts.failedMark ++ (GatewayError.execution e).message = "❌ Execution failed: " ++ e.message := by
      rw [← joined, String.append_assoc]
      rfl
    simp only [wording]
    exact .failed e.message

-- A frame either sends its block at once or begins a call behind its opening.
theorem frame_block (rule : Step s (.frame raw) next out) :
    s.call = none ∧ (next.call = none ∧ Block out ∨ ∃ call, next.call = some call ∧ out = [opening call]) := by
  cases rule with
  | rejected idle refused => exact ⟨idle, .inl ⟨idle, rejection_block _⟩⟩
  | requested idle heard free => exact ⟨idle, .inr ⟨_, rfl, rfl⟩⟩
  | approved idle heard shown word => exact ⟨idle, .inr ⟨_, rfl, rfl⟩⟩
  | cancelled idle heard shown word => exact ⟨idle, .inl ⟨idle, .cancelled⟩⟩
  | unclear idle heard shown word => exact ⟨idle, .inl ⟨idle, .unclear⟩⟩

theorem answer_block (rule : Step s (.answer answer) next out) :
    next.call = none ∧ ∃ call, s.call = some call ∧ Block (opening call :: out) := by
  cases rule with
  | unplanned asked failed => exact ⟨rfl, _, asked, .unplanned _⟩
  | actionless asked planned bare => exact ⟨rfl, _, asked, .actionless⟩
  | proposed asked planned found => exact ⟨rfl, _, asked, .proposed _ _⟩
  | finished called => exact ⟨rfl, _, called, executed_block _⟩

theorem Path.rounds (path : Path origin trace s) (idle : origin.call = none) :
    ∃ (rounds : List (List Mark)) (part : List Mark), trace = rounds.flatten ++ part ∧
      (∀ round ∈ rounds, Round round) ∧ Unfinished s.call part := by
  induction path with
  | nil => exact ⟨[], [], rfl, by simp, by simp [Unfinished, idle]⟩
  | @step trace before input next out prior taken ih =>
    obtain ⟨rounds, part, rfl, done, under⟩ := ih
    -- The frame that was under way ends here, with what came before it.
    have close : ∀ {added}, Round (part ++ added) → next.call = none →
        ∃ (rounds' : List (List Mark)) (part' : List Mark),
          rounds.flatten ++ part ++ added = rounds'.flatten ++ part' ∧
          (∀ round ∈ rounds', Round round) ∧ Unfinished next.call part' := by
      intro added round ended
      refine ⟨rounds ++ [part ++ added], [], by simp, ?_, by simp [Unfinished, ended]⟩
      intro old present
      rcases List.mem_append.mp present with earlier | last
      · exact done old earlier
      · rwa [List.mem_singleton.mp last]
    cases input with
    | frame raw =>
      obtain ⟨free, ⟨ended, block⟩ | ⟨call, begun, opened⟩⟩ := frame_block (step_sound taken)
      · rw [free] at under
        obtain rfl : part = [] := under
        refine close ⟨before.state, raw, out.map .sent, by simp [marks, ended], ?_, .inl ⟨?_, ?_⟩⟩ ended
        · simp [Mark.isFrame]
        · simp
        · rwa [envelopes_sent]
      · rw [free] at under
        obtain rfl : part = [] := under
        exact ⟨rounds, marks before next out (.frame raw), by simp, done, by
          rw [begun]; exact ⟨before.state, raw, by simp [marks, begun, opened]⟩⟩
    | answer answer =>
      obtain ⟨ended, call, busy, block⟩ := answer_block (step_sound taken)
      rw [busy] at under
      obtain ⟨state, raw, rfl⟩ := under
      refine close ⟨state, raw, _, rfl, ?_, .inl ⟨?_, ?_⟩⟩ ended
      · simp [marks, Mark.isFrame]
      · simp [marks]
      · have shape : envelopes (.sent (opening call) :: .began call :: .ended answer :: out.map .sent) =
            opening call :: envelopes (out.map .sent) := rfl
        exact (shape.trans (by rw [envelopes_sent])) ▸ block
    | drop =>
      cases step_sound taken with
      | dropped busy =>
        rw [busy] at under
        obtain ⟨state, raw, rfl⟩ := under
        refine close ⟨state, raw, _, rfl, ?_, .inr ⟨?_, _, rfl⟩⟩ rfl
        · simp [marks, Mark.isFrame]
        · simp [marks]

theorem heed_step (taken : s.step input = some (next, out)) :
    out.foldl heed (s.pending.map Action.payload) = next.pending.map Action.payload := by
  cases step_sound taken with
  | rejected idle refused =>
    rename_i error
    cases error <;> rfl
  | requested idle heard free => simp [heed, Envelope.bot, Texts.thinking, Texts.executing, Texts.cancelled]
  | approved idle heard shown word => simp [heed, Envelope.bot]
  | cancelled idle heard shown word => simp [heed, Envelope.bot]
  | unclear idle heard shown word => simp [heed, Envelope.bot, Texts.askYesNo, Texts.executing, Texts.cancelled]
  | unplanned asked failed => rfl
  | actionless asked planned bare => simp [heed, Envelope.bot, Texts.noAction, Texts.executing, Texts.cancelled]
  | proposed asked planned found => rfl
  | finished called =>
    unfold executed
    split <;> rfl
  | dropped busy => rfl

theorem envelopes_marks (taken : s.step input = some (next, out)) :
    envelopes (marks s next out input) = out := by
  cases input with
  | frame raw =>
    have calls : envelopes (next.call.toList.map .began) = [] := by cases next.call <;> rfl
    have tail : envelopes (marks s next out (.frame raw)) =
        envelopes (out.map .sent ++ next.call.toList.map .began) := rfl
    rw [tail, envelopes_append, envelopes_sent, calls, List.append_nil]
  | answer answer =>
    have tail : envelopes (marks s next out (.answer answer)) = envelopes (out.map .sent) := rfl
    rw [tail, envelopes_sent]
  | drop => cases step_sound taken; rfl

theorem Path.believed (path : Path origin trace s) :
    (envelopes trace).foldl heed (origin.pending.map Action.payload) = s.pending.map Action.payload := by
  induction path with
  | nil => rfl
  | step prior taken ih =>
    rw [envelopes_append, envelopes_marks taken, List.foldl_append, ih]
    exact heed_step taken

end

section
variable {descriptors : Except BackendError (List Json)} {trace : List Mark} {s : Session}

theorem transcript_determines_session (run : Runs descriptors trace s) :
    (∃ (rounds : List (List Mark)) (part : List Mark),
      trace = .sent (.bot Texts.greeting) :: (rounds.flatten ++ part) ∧
      (∀ round ∈ rounds, Round round) ∧ Unfinished s.call part) ∧
    believed (envelopes trace) = s.pending.map Action.payload ∧
    (believed (envelopes trace)).bind Action.ofPayload? = s.pending ∧
    (s.state = .awaitingConfirmation ↔ (believed (envelopes trace)).isSome) ∧
    (∀ e, Session.start (.error e) = .error (.catalogFetch e) ∧ ∀ trace s, ¬ Runs (.error e) trace s) := by
  obtain ⟨raws, path, rfl, walked, rfl⟩ := run.parts
  obtain ⟨rounds, part, rfl, done, under⟩ := walked.rounds rfl
  have shown : believed (envelopes (.sent (.bot Texts.greeting) :: (rounds.flatten ++ part))) =
      s.pending.map Action.payload := by
    have greeted : heed none (.bot Texts.greeting) = none := by
      simp [heed, Envelope.bot, Texts.greeting, Texts.executing, Texts.cancelled]
    have first : believed (envelopes (.sent (.bot Texts.greeting) :: (rounds.flatten ++ part))) =
        (envelopes (rounds.flatten ++ part)).foldl heed (heed none (.bot Texts.greeting)) := rfl
    rw [first, greeted]
    exact walked.believed
  refine ⟨⟨rounds, part, rfl, done, under⟩, shown, ?_, ?_, fun e => ⟨rfl, fun _ _ none => ?_⟩⟩
  · rw [shown]
    cases s.pending with
    | none => rfl
    | some action => exact Action.ofPayload?_payload action
  · rw [shown]
    cases pending : s.pending with
    | none => simp [state_of_pending_none pending]
    | some action => simp [state_of_pending_some pending]
  · obtain ⟨_, _, impossible, _⟩ := none.parts
    cases impossible

end

theorem transcript_determines_session_second_yes :
    Runs (.ok []) SecondYes.trace ⟨[], some SecondYes.action, none⟩ ∧
      believed (envelopes SecondYes.trace) = some SecondYes.action.payload ∧
      (believed (envelopes SecondYes.trace)).bind Action.ofPayload? = some SecondYes.action := by
  obtain ⟨_, pending, readBack, _⟩ := transcript_determines_session SecondYes.runs
  exact ⟨SecondYes.runs, pending, readBack⟩

end ToolGateway.Session
