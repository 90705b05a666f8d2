import ToolGateway.Session.Run

namespace ToolGateway.Session

-- The ways a step can go, each with all that it depends on. Nothing here is a demand on a run: the
-- rules say of the step function exactly what it does.
inductive Step : Session → Input → Session → List Envelope → Prop where
  | rejected (idle : s.call = none) (refused : UserMessage.userText raw = .error e) :
      Step s (.frame raw) s [rejection e]
  | requested (idle : s.call = none) (heard : UserMessage.userText raw = .ok text)
      (free : s.pending = none) :
      Step s (.frame raw) {s with call := some (.plan (Text.trim text))} [.bot Texts.thinking]
  | approved (idle : s.call = none) (heard : UserMessage.userText raw = .ok text)
      (shown : s.pending = some action) (word : Reply.classify text = .confirm) :
      Step s (.frame raw) {s with pending := none, call := some (.tool action)} [.bot Texts.executing]
  | cancelled (idle : s.call = none) (heard : UserMessage.userText raw = .ok text)
      (shown : s.pending = some action) (word : Reply.classify text = .cancel) :
      Step s (.frame raw) {s with pending := none} [.bot Texts.cancelled]
  | unclear (idle : s.call = none) (heard : UserMessage.userText raw = .ok text)
      (shown : s.pending = some action) (word : Reply.classify text = .unclear) :
      Step s (.frame raw) s [.bot Texts.askYesNo]
  | unplanned (asked : s.call = some (.plan text)) (failed : Planner.planOf reply = .error e) :
      Step s (.answer (.reply reply)) {s with call := none} [.error (GatewayError.planning e).message]
  | actionless (asked : s.call = some (.plan text)) (planned : Planner.planOf reply = .ok plan)
      (bare : plan.action? = none) :
      Step s (.answer (.reply reply)) {s with call := none} [.bot Texts.noAction]
  | proposed (asked : s.call = some (.plan text)) (planned : Planner.planOf reply = .ok plan)
      (found : plan.action? = some action) :
      Step s (.answer (.reply reply)) {s with call := none, pending := some action}
        [.confirm (plan.confirmText action) action.payload]
  | finished (called : s.call = some (.tool action)) :
      Step s (.answer (.outcome result)) {s with call := none} [executed result]
  | dropped (busy : s.call = some waited) : Step s .drop {s with call := none} []

section
variable {s next : Session} {input : Input} {out : List Envelope}

theorem step_complete (rule : Step s input next out) : s.step input = some (next, out) := by
  cases rule <;> simp_all [step, receive, request, settle, resume, planned, giveUp]

theorem step_sound (taken : s.step input = some (next, out)) : Step s input next out := by
  cases input with
  | frame raw =>
    cases idle : s.call with
    | some call => simp [step, idle] at taken
    | none =>
      have received : s.receive raw = (next, out) := by simpa [step, idle] using taken
      unfold receive at received
      cases heard : UserMessage.userText raw with
      | error e => simp only [heard] at received; cases received; exact .rejected idle heard
      | ok text =>
        simp only [heard] at received
        cases shown : s.pending with
        | none => simp only [shown] at received; cases received; exact .requested idle heard shown
        | some action =>
          simp only [shown, settle] at received
          cases word : Reply.classify text with
          | confirm => simp only [word] at received; cases received; exact .approved idle heard shown word
          | cancel => simp only [word] at received; cases received; exact .cancelled idle heard shown word
          | unclear => simp only [word] at received; cases received; exact .unclear idle heard shown word
  | answer answer =>
    cases answer with
    | reply reply =>
      rcases busy : s.call with _ | text | action
      · simp [step, busy] at taken
      · have resumed : {s with call := none}.planned reply = (next, out) := by
          simpa [step, resume, busy] using taken
        unfold planned at resumed
        cases made : Planner.planOf reply with
        | error e => simp only [made] at resumed; cases resumed; exact .unplanned busy made
        | ok plan =>
          cases found : plan.action? with
          | none => simp only [made, found] at resumed; cases resumed; exact .actionless busy made found
          | some action => simp only [made, found] at resumed; cases resumed; exact .proposed busy made found
      · simp [step, busy] at taken
    | outcome result =>
      rcases busy : s.call with _ | text | action
      · simp [step, busy] at taken
      · simp [step, busy] at taken
      · simp only [step, resume, busy] at taken
        cases taken
        exact .finished busy
  | drop =>
    cases busy : s.call with
    | none => simp [step, busy] at taken
    | some call => simp only [step, busy] at taken; cases taken; exact .dropped busy

theorem step_exact : s.step input = some (next, out) ↔ Step s input next out :=
  ⟨step_sound, step_complete⟩

theorem step_frame (idle : s.call = none) (raw : String) : s.step (.frame raw) = some (s.receive raw) := by
  simp [step, idle]

inductive Suits : Answer → Call → Prop where
  | reply : Suits (.reply reply) (.plan text)
  | outcome : Suits (.outcome result) (.tool action)

theorem finish_suits (service : Service) (call : Call) : Suits (service.finish call).1 call := by
  cases call with
  | plan text => exact .reply
  | tool action => exact .outcome

theorem step_answer {call : Call} {answer : Answer} (busy : s.call = some call) (suits : Suits answer call) :
    s.step (.answer answer) = some (s.resume answer) := by
  cases suits <;> simp [step, busy]

theorem Step.idle {answer : Answer} (rule : Step s (.answer answer) next out) : next.call = none := by
  cases rule <;> rfl

end

inductive Mark where
  | heard (state : State) (raw : String)
  | sent (envelope : Envelope)
  | began (call : Call)
  | ended (answer : Answer)
  | gaveUp

-- The marks of one step: what sets it off, what is sent, and the call that begins after that.
def marks (s next : Session) (out : List Envelope) : Input → List Mark
  | .frame raw => .heard s.state raw :: (out.map .sent ++ next.call.toList.map .began)
  | .answer answer => .ended answer :: out.map .sent
  | .drop => [.gaveUp]

inductive Path : Session → List Mark → Session → Prop where
  | nil : Path s [] s
  | step (prior : Path origin trace s) (taken : s.step input = some (next, out)) :
      Path origin (trace ++ marks s next out input) next

section
variable {origin middle s : Session} {trace earlier later : List Mark} {mark : Mark}
  {descriptors : Except BackendError (List Json)}

theorem Path.append (one : Path origin earlier middle) (two : Path middle later s) :
    Path origin (earlier ++ later) s := by
  induction two with
  | nil => simpa using one
  | step prior taken ih => simpa only [List.append_assoc] using Path.step ih taken

-- The same, computed. An input that does not apply stops the run.
def play (s : Session) : List Input → Option (List Mark × Session)
  | [] => some ([], s)
  | input :: rest => do
    let (next, out) ← s.step input
    let (trace, last) ← next.play rest
    some (marks s next out input ++ trace, last)

theorem play_path {inputs : List Input} (played : origin.play inputs = some (trace, s)) :
    Path origin trace s := by
  induction inputs generalizing origin trace with
  | nil => cases played; exact .nil
  | cons input rest ih =>
    simp only [play, Option.bind_eq_bind, Option.bind_eq_some_iff] at played
    obtain ⟨⟨next, out⟩, taken, ⟨tail, last⟩, after, equal⟩ := played
    cases equal
    exact (Path.step .nil taken).append (ih after)

-- A run is never cut: a session that is abandoned is one whose run is not carried on.
def Runs (descriptors : Except BackendError (List Json)) (trace : List Mark) (s : Session) : Prop :=
  ∃ first out path, Session.start descriptors = .ok (first, out) ∧ Path first path s ∧
    trace = out.map .sent ++ path

theorem Runs.parts (run : Runs descriptors trace s) :
    ∃ raws path, descriptors = .ok raws ∧ Path ⟨(Catalog.list raws).tools, none, none⟩ path s ∧
      trace = .sent (.bot Texts.greeting) :: path := by
  obtain ⟨first, out, path, started, walked, rfl⟩ := run
  cases descriptors with
  | error e => cases started
  | ok raws => cases started; exact ⟨raws, path, rfl, walked, rfl⟩

def Mark.question : Mark → Option String
  | .began (.plan text) => some text
  | _ => none

def questions (trace : List Mark) : List String := trace.filterMap Mark.question

theorem questions_append (one two : List Mark) : questions (one ++ two) = questions one ++ questions two :=
  List.filterMap_append

def Mark.opens : Mark → Bool
  | .heard _ _ => true
  | .ended _ => true
  | .gaveUp => true
  | _ => false

theorem marks_opens (s next : Session) (out : List Envelope) (input : Input) :
    ∃ first rest, marks s next out input = first :: rest ∧ first.opens = true ∧
      ∀ mark ∈ rest, mark.opens = false := by
  cases input with
  | frame raw =>
    refine ⟨_, _, rfl, rfl, ?_⟩
    intro mark present
    simp only [List.mem_append, List.mem_map] at present
    rcases present with ⟨_, _, rfl⟩ | ⟨_, _, rfl⟩ <;> rfl
  | answer answer =>
    refine ⟨_, _, rfl, rfl, ?_⟩
    intro mark present
    obtain ⟨_, _, rfl⟩ := List.mem_map.mp present
    rfl
  | drop => exact ⟨_, _, rfl, rfl, by simp⟩

theorem Path.first_opens (path : Path origin trace s) (first : trace.head? = some mark) : mark.opens = true := by
  induction path with
  | nil => cases first
  | @step trace before input next out prior taken ih =>
    obtain ⟨head, rest, shape, opens, _⟩ := marks_opens before next out input
    cases trace with
    | nil =>
      rw [List.nil_append, shape] at first
      cases first
      exact opens
    | cons old more => exact ih first

-- A path falls apart in front of every mark that sets off a step.
theorem Path.split (path : Path origin trace s) (cut : trace = earlier ++ mark :: later)
    (opens : mark.opens = true) :
    ∃ middle input next out rest, Path origin earlier middle ∧ middle.step input = some (next, out) ∧
      mark :: later = marks middle next out input ++ rest ∧ Path next rest s := by
  induction path generalizing later with
  | nil => simp at cut
  | @step trace before input next out prior taken ih =>
    rcases List.append_eq_append_iff.mp cut with ⟨inner, rfl, made⟩ | ⟨inner, rfl, made⟩
    · obtain ⟨first, rest, shape, _, closed⟩ := marks_opens before next out input
      cases inner with
      | nil => exact ⟨before, input, next, out, [], by simpa using prior, taken, by simpa using made.symm, .nil⟩
      | cons head tail =>
        have inside : mark ∈ rest := by
          rw [shape] at made
          have tails := (List.cons.inj made).2
          simp [tails]
        rw [closed mark inside] at opens
        cases opens
    · cases inner with
      | nil => exact ⟨before, input, next, out, [], by simpa using prior, taken, by simpa using made, .nil⟩
      | cons head tail =>
        obtain ⟨rfl, rest⟩ := List.cons.inj made
        obtain ⟨middle, input', next', out', more, one, moved, equal, two⟩ := ih rfl
        refine ⟨middle, input', next', out', more ++ marks before next out input, one, moved, ?_, .step two taken⟩
        rw [← List.append_assoc, ← equal, rest]
        rfl

-- While a call is under way no action is shown.
def Clear (s : Session) : Prop := s.call ≠ none → s.pending = none

theorem Step.clear {input : Input} {next : Session} {out : List Envelope} (rule : Step s input next out)
    (clear : Clear s) : Clear next := by
  cases rule with
  | rejected => exact clear
  | requested idle heard free => exact fun _ => free
  | approved => exact fun _ => rfl
  | cancelled => exact fun _ => rfl
  | unclear => exact clear
  | unplanned => exact fun busy => absurd rfl busy
  | actionless => exact fun busy => absurd rfl busy
  | proposed => exact fun busy => absurd rfl busy
  | finished => exact fun busy => absurd rfl busy
  | dropped => exact fun busy => absurd rfl busy

theorem Path.clear (path : Path origin trace s) (clear : Clear origin) : Clear s := by
  induction path with
  | nil => exact clear
  | step prior taken ih => exact (step_sound taken).clear ih

theorem Step.catalog {input : Input} {next : Session} {out : List Envelope} (rule : Step s input next out) :
    next.catalog = s.catalog := by
  cases rule <;> rfl

theorem Path.catalog (path : Path origin trace s) : s.catalog = origin.catalog := by
  induction path with
  | nil => rfl
  | step prior taken ih => rw [(step_sound taken).catalog, ih]

end

end ToolGateway.Session
