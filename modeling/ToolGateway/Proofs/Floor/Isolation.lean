import ToolGateway.Proofs.Floor.Journal

namespace ToolGateway.Floor

-- What happens to a seat, as it would happen to it alone. A tool call that ends was let through.
def Act.events (gated : Bool) : Act → List Event
  | .opened listing => [.start listing]
  | .heard raw => [.frame 0 raw]
  | .returned _ _ => if gated then [.permit 1] else []
  | .cut => [.disconnect 0]
  | .left => [.abandon 0]
  | _ => []

def days (gated : Bool) (story : List Act) : List Event := story.flatMap (Act.events gated)

-- A floor for one session, with the answers that it got. Its gate lets nothing through unasked.
def alone (gate : Option Gate) (story : List Act) : Floor :=
  ⟨[], .fresh (story.filterMap Act.reply?) (story.filterMap Act.outcome?), gate.map fun _ => .start 0⟩

-- A change that a seat has no part in.
structure Spares (i : Nat) (floor next : Floor) : Prop where
  seat : next.seats[i]? = floor.seats[i]?
  gate : next.gate.isSome = floor.gate.isSome

section
variable {floor next last : Floor} {i j : Nat}

theorem Spares.refl (i : Nat) (floor : Floor) : Spares i floor floor := ⟨rfl, rfl⟩

theorem Spares.trans (first : Spares i floor next) (second : Spares i next last) : Spares i floor last :=
  ⟨second.seat.trans first.seat, second.gate.trans first.gate⟩

theorem spares_onSeat (different : j ≠ i) (floor : Floor) (change : Seat → Seat) :
    Spares i floor (floor.onSeat j change) := by
  refine ⟨?_, rfl⟩
  simp [onSeat, different]

theorem spares_finish (different : j ≠ i) (floor : Floor) (session : Session) (call : Session.Call) :
    Spares i floor (floor.finish j session call) :=
  ⟨(spares_onSeat different _ _).seat, rfl⟩

theorem spares_begin (different : j ≠ i) (floor : Floor) (session : Session) (call : Session.Call) :
    Spares i floor (floor.begin j session call) := by
  obtain ⟨line, kept, cases⟩ := begin_cases floor j session call
  have begun : Spares i floor {floor with service := floor.service.begin session.catalog call, gate := line} :=
    ⟨rfl, kept⟩
  rcases cases with ⟨ended, _⟩ | ⟨waits, _⟩
  · rw [ended]
    exact begun.trans (spares_finish different _ session call)
  · rw [waits]
    exact begun

theorem spares_frame (different : j ≠ i) (floor : Floor) (raw : String) : Spares i floor (floor.frame j raw) := by
  rcases frame_cases floor j raw with ⟨_, kept, _⟩ | ⟨session, _, _, ⟨_, settled, _⟩ | ⟨call, _, begun, _⟩⟩
  · rw [kept]
    exact .refl i floor
  · rw [settled]
    exact spares_onSeat different floor _
  · rw [begun]
    have shown : Spares i floor (floor.put j (session.receive raw)) := spares_onSeat different floor _
    exact shown.trans (spares_begin different _ _ call)

theorem spares_proceed (different : j ≠ i) (floor : Floor) : Spares i floor (floor.proceed j) := by
  rcases proceed_cases floor j with ⟨kept, _⟩ | ⟨session, call, gate, rest, _, _, gated, _, ended, _⟩
  · rw [kept]
    exact .refl i floor
  · rw [ended]
    have passed : Spares i floor {floor with gate := some rest} := ⟨rfl, by simp [gated]⟩
    exact passed.trans (spares_finish different _ session call)

theorem spares_abandon (different : j ≠ i) (floor : Floor) : Spares i floor (floor.abandon j) := by
  have left : Spares i floor {floor with gate := floor.gate.map fun gate => gate.leave j} := ⟨rfl, by simp⟩
  exact left.trans (spares_onSeat different _ _)

def newSeat (listing : Except BackendError (List Json)) : Seat :=
  match Session.start listing with
  | .error _ => ⟨none, true, []⟩
  | .ok (session, out) => ⟨some session, true, out⟩

theorem start_seats (floor : Floor) (listing : Except BackendError (List Json)) :
    floor.start listing = {floor with seats := floor.seats ++ [newSeat listing]} := by
  unfold start newSeat
  cases Session.start listing <;> rfl

theorem spares_start (elsewhere : floor.seats.length ≠ i) (listing : Except BackendError (List Json)) :
    Spares i floor (floor.start listing) := by
  rw [start_seats]
  refine ⟨?_, rfl⟩
  rcases Nat.lt_or_gt_of_ne elsewhere with after | before
  · rw [List.getElem?_eq_none (Nat.le_of_lt after), List.getElem?_eq_none]
    rw [List.length_append]
    exact after
  · exact List.getElem?_append_left before

inductive Concern (i : Nat) (floor : Floor) : Move → Prop where
  | elsewhere {next : Move} (spares : Spares i floor (floor.move next)) (nothing : own i (floor.moveActs next) = []) :
      Concern i floor next
  | start (here : floor.seats.length = i) (listing : Except BackendError (List Json)) : Concern i floor (.start listing)
  | frame (raw : String) : Concern i floor (.frame i raw)
  | disconnect : Concern i floor (.disconnect i)
  | abandon : Concern i floor (.abandon i)
  | proceed : Concern i floor (.proceed i)

theorem concern (i : Nat) (floor : Floor) (next : Move) : Concern i floor next := by
  cases next with
  | start listing =>
    by_cases here : floor.seats.length = i
    · exact .start here listing
    · exact .elsewhere (spares_start here listing) (own_tagged_other here _)
  | frame j raw =>
    by_cases mine : j = i
    · exact mine ▸ .frame raw
    · exact .elsewhere (spares_frame mine floor raw) (own_tagged_other mine _)
  | push reply => exact .elsewhere ⟨rfl, rfl⟩ rfl
  | disconnect j =>
    by_cases mine : j = i
    · exact mine ▸ .disconnect
    · exact .elsewhere (spares_onSeat mine floor _) (own_tagged_other mine _)
  | abandon j =>
    by_cases mine : j = i
    · exact mine ▸ .abandon
    · exact .elsewhere (spares_abandon mine floor) (own_tagged_other mine _)
  | add count => exact .elsewhere ⟨rfl, Option.isSome_map⟩ rfl
  | proceed j =>
    by_cases mine : j = i
    · exact mine ▸ .proceed
    · exact .elsewhere (spares_proceed mine floor) (own_tagged_other mine _)

-- What one seat keeps along every run, together with its entries so far, whatever the other seats do.
structure Steady (i : Nat) (keeps : Floor → List Act → Prop) : Prop where
  spared : ∀ {floor next story}, Spares i floor next → keeps floor story → keeps next story
  start : ∀ {floor story} listing, floor.seats.length = i → keeps floor story →
    keeps (floor.start listing) (story ++ startActs listing)
  frame : ∀ {floor story} raw, keeps floor story → keeps (floor.frame i raw) (story ++ floor.frameActs i raw)
  disconnect : ∀ {floor story}, keeps floor story → keeps (floor.step (.disconnect i)) (story ++ [.cut])
  abandon : ∀ {floor story}, keeps floor story → keeps (floor.abandon i) (story ++ [.left])
  proceed : ∀ {floor story}, keeps floor story → keeps (floor.proceed i) (story ++ floor.proceedActs i)

theorem Steady.move {keeps : Floor → List Act → Prop} {story : List Act} (steady : Steady i keeps)
    (kept : keeps floor story) (next : Move) : keeps (floor.move next) (story ++ own i (floor.moveActs next)) := by
  cases concern i floor next with
  | elsewhere spares nothing =>
    rw [nothing, List.append_nil]
    exact steady.spared spares kept
  | start here listing =>
    rw [moveActs, here, own_tagged]
    exact steady.start listing here kept
  | frame raw =>
    rw [moveActs, own_tagged]
    exact steady.frame raw kept
  | disconnect =>
    rw [moveActs, own_tagged]
    exact steady.disconnect kept
  | abandon =>
    rw [moveActs, own_tagged]
    exact steady.abandon kept
  | proceed =>
    rw [moveActs, own_tagged]
    exact steady.proceed kept

theorem Steady.follow {keeps : Floor → List Act → Prop} {story : List Act} (steady : Steady i keeps)
    (kept : keeps floor story) (moves : List Move) :
    keeps (floor.follow moves) (story ++ own i (floor.record moves)) := by
  induction moves generalizing floor story with
  | nil => exact (List.append_nil story).symm ▸ kept
  | cons next rest ih =>
    rw [record, own_append, ← List.append_assoc]
    exact ih (steady.move kept next)

theorem Steady.run {keeps : Floor → List Act → Prop} {story : List Act} (steady : Steady i keeps)
    (kept : keeps floor story) (events : List Event) :
    keeps (floor.run events) (story ++ own i (floor.journal events)) := by
  obtain ⟨goes, did⟩ := follow_events floor events
  rw [← goes, ← did]
  exact steady.follow kept _

end

def line (seat : Option Seat) : Gate := if seat.any Seat.busy then ⟨0, [0], []⟩ else .start 0

-- A floor for one that stands where the seat of the shared floor stands.
structure Mirrors (i : Nat) (gated : Bool) (floor lone : Floor) : Prop where
  seats : lone.seats = (floor.seats[i]?).toList
  kept : floor.gate.isSome = gated
  gate : lone.gate = if gated then some (line floor.seats[i]?) else none
  -- Only a tool call waits, and only at a gate.
  waits : ∀ session call, floor.sessionAt i = some session → session.call = some call →
    gated = true ∧ ∃ action, call = .tool action

structure Queues (service : Service) (replies : List LlmReply) (outcomes : List CallResult) : Prop where
  replies : service.replies = replies
  outcomes : service.outcomes = outcomes

-- A floor for one goes along with the shared floor by the events of what the seat does, and uses up
-- just the answers that the seat got.
def Follows (i : Nat) (gated : Bool) (floor next : Floor) (story : List Act) : Prop :=
  ∀ lone replies outcomes, Mirrors i gated floor lone →
    Queues lone.service (story.filterMap Act.reply? ++ replies) (story.filterMap Act.outcome? ++ outcomes) →
    Mirrors i gated next (lone.run (days gated story)) ∧
      Queues (lone.run (days gated story)).service replies outcomes ∧
      lone.journal (days gated story) = tagged 0 story

-- Both floors at one seat whose call, if it has one, is not at the gate yet.
structure Faced (i : Nat) (gated : Bool) (seat : Seat) (floor lone : Floor) : Prop where
  there : floor.seats[i]? = some seat
  here : lone.seats = [seat]
  kept : floor.gate.isSome = gated
  gate : lone.gate = if gated then some (.start 0) else none

section
variable {floor next last : Floor} {i j : Nat} {gated : Bool} {story more : List Act}

theorem Follows.trans (first : Follows i gated floor next story) (second : Follows i gated next last more) :
    Follows i gated floor last (story ++ more) := by
  intro lone replies outcomes mirrors queues
  rw [List.filterMap_append, List.append_assoc, List.filterMap_append, List.append_assoc] at queues
  obtain ⟨between, left, did⟩ := first lone _ _ mirrors queues
  obtain ⟨final, rest, didMore⟩ := second _ _ _ between left
  have split : days gated (story ++ more) = days gated story ++ days gated more := List.flatMap_append
  rw [split, run_append, journal_append, did, didMore]
  exact ⟨final, rest, (List.map_append ..).symm⟩

theorem Mirrors.spared {lone : Floor} (mirrors : Mirrors i gated floor lone) (spares : Spares i floor next) :
    Mirrors i gated next lone := by
  have present : next.sessionAt i = floor.sessionAt i := by rw [sessionAt, sessionAt, spares.seat]
  refine ⟨?_, ?_, ?_, ?_⟩
  · rw [spares.seat]; exact mirrors.seats
  · rw [spares.gate]; exact mirrors.kept
  · rw [spares.seat]; exact mirrors.gate
  · rw [present]; exact mirrors.waits

theorem Follows.spared (spares : Spares i floor next) : Follows i gated floor next [] :=
  fun _ _ _ mirrors queues => ⟨mirrors.spared spares, queues, rfl⟩

theorem days_sent (gated : Bool) (out : List Envelope) : days gated (out.map .sent) = [] := by
  simp [days, Act.events]

theorem replies_sent (out : List Envelope) : (out.map Act.sent).filterMap Act.reply? = [] := by
  simp [Act.reply?]

theorem outcomes_sent (out : List Envelope) : (out.map Act.sent).filterMap Act.outcome? = [] := by
  simp [Act.outcome?]

theorem finish_replies (service : Service) (session : Session) (call : Session.Call) :
    (finishActs service session call).filterMap Act.reply? = (Act.ended service call).reply?.toList := by
  rw [finishActs, ← List.singleton_append, List.filterMap_append, replies_sent, List.append_nil]
  cases found : (Act.ended service call).reply? <;> simp [found]

theorem finish_outcomes (service : Service) (session : Session) (call : Session.Call) :
    (finishActs service session call).filterMap Act.outcome? = (Act.ended service call).outcome?.toList := by
  rw [finishActs, ← List.singleton_append, List.filterMap_append, outcomes_sent, List.append_nil]
  cases found : (Act.ended service call).outcome? <;> simp [found]

theorem finish_days (gated : Bool) (service : Service) (session : Session) (call : Session.Call) :
    days gated (finishActs service session call) = (Act.ended service call).events gated := by
  have split : days gated (finishActs service session call) = (Act.ended service call).events gated ++
      days gated ((session.resume (service.finish call).1).2.map .sent) := rfl
  rw [split, days_sent, List.append_nil]

theorem same_answer {here there : Service} {session : Session} {call : Session.Call} {replies : List LlmReply}
    {outcomes : List CallResult}
    (queues : Queues here ((finishActs there session call).filterMap Act.reply? ++ replies)
      ((finishActs there session call).filterMap Act.outcome? ++ outcomes)) :
    (here.finish call).1 = (there.finish call).1 ∧ Queues (here.finish call).2 replies outcomes ∧
      finishActs here session call = finishActs there session call := by
  have same : (here.finish call).1 = (there.finish call).1 ∧ Queues (here.finish call).2 replies outcomes ∧
      Act.ended here call = Act.ended there call := by
    rw [finish_replies, finish_outcomes] at queues
    cases call with
    | plan text =>
      have first : here.replies = there.takeReply.1 :: replies := by
        simpa [Act.ended, Act.reply?] using queues.replies
      have second : here.outcomes = outcomes := by
        simpa [Act.ended, Act.outcome?] using queues.outcomes
      refine ⟨?_, ⟨?_, ?_⟩, ?_⟩ <;> simp [Service.finish, Service.takeReply, Act.ended, first, second]
    | tool action =>
      have first : here.replies = replies := by simpa [Act.ended, Act.reply?] using queues.replies
      have second : here.outcomes = there.takeOutcome.1 :: outcomes := by
        simpa [Act.ended, Act.outcome?] using queues.outcomes
      refine ⟨?_, ⟨?_, ?_⟩, ?_⟩ <;> simp [Service.finish, Service.takeOutcome, Act.ended, first, second]
  refine ⟨same.1, same.2.1, ?_⟩
  rw [finishActs, finishActs, same.1, same.2.2]

theorem planned_call (session : Session) (reply : LlmReply) : (session.planned reply).1.call = session.call := by
  unfold Session.planned
  cases Planner.planOf reply with
  | error e => rfl
  | ok plan => cases found : plan.action? <;> simp [found]

theorem resume_idle {session : Session} {call : Session.Call} (service : Service) (busy : session.call = some call) :
    (session.resume (service.finish call).1).1.call = none := by
  cases call with
  | plan text =>
    simp only [Service.finish, Session.resume, busy]
    exact planned_call _ _
  | tool action => simp only [Service.finish, Session.resume, busy]

def seatAfter (seat : Seat) (after : Session × List Envelope) : Seat :=
  {seat with session := some after.1}.emit after.2

theorem seatAfter_session (seat : Seat) (after : Session × List Envelope) :
    (seatAfter seat after).session = some after.1 := by
  unfold seatAfter Seat.emit
  split <;> rfl

theorem seat_put {seat : Seat} (present : floor.seats[i]? = some seat) (after : Session × List Envelope) :
    (floor.put i after).seats[i]? = some (seatAfter seat after) := by
  simp [put, onSeat, present, seatAfter]

theorem sessionAt_put {session : Session} (present : floor.sessionAt i = some session)
    (after : Session × List Envelope) : (floor.put i after).sessionAt i = some after.1 := by
  obtain ⟨seat, there, _⟩ := Option.bind_eq_some_iff.mp present
  rw [sessionAt, seat_put there]
  exact seatAfter_session seat after

theorem seats_put {seat : Seat} (present : floor.seats = [seat]) (after : Session × List Envelope) :
    (floor.put 0 after).seats = [seatAfter seat after] := by
  simp [put, onSeat, present, seatAfter]

theorem Faced.mirrors {lone : Floor} {seat : Seat} {session : Session} (faced : Faced i gated seat floor lone)
    (held : seat.session = some session) (idle : session.call = none) : Mirrors i gated floor lone := by
  have busy : (some seat).any Seat.busy = false := by simp [Seat.busy, held, idle]
  refine ⟨by simp [faced.there, faced.here], faced.kept, ?_, ?_⟩
  · rw [faced.gate, faced.there, line, busy]
    rfl
  · intro session' call present waiting
    have same : some session = some session' := by simpa [sessionAt, faced.there, held] using present
    cases same
    cases idle.symm.trans waiting

theorem Mirrors.faced {lone : Floor} {seat : Seat} {session : Session} (mirrors : Mirrors i gated floor lone)
    (there : floor.seats[i]? = some seat) (held : seat.session = some session) (idle : session.call = none) :
    Faced i gated seat floor lone := by
  have busy : (some seat).any Seat.busy = false := by simp [Seat.busy, held, idle]
  refine ⟨there, by simp [mirrors.seats, there], mirrors.kept, ?_⟩
  rw [mirrors.gate, there, line, busy]
  rfl

theorem Faced.put {lone : Floor} {seat : Seat} (faced : Faced i gated seat floor lone)
    (after : Session × List Envelope) :
    Faced i gated (seatAfter seat after) (floor.put i after) (lone.put 0 after) :=
  ⟨seat_put faced.there after, seats_put faced.here after, faced.kept, faced.gate⟩

theorem Faced.finish {lone : Floor} {seat : Seat} {session : Session} {call : Session.Call}
    {replies : List LlmReply} {outcomes : List CallResult} (faced : Faced i gated seat floor lone)
    (busy : session.call = some call)
    (queues : Queues lone.service ((finishActs floor.service session call).filterMap Act.reply? ++ replies)
      ((finishActs floor.service session call).filterMap Act.outcome? ++ outcomes)) :
    Mirrors i gated (floor.finish i session call) (lone.finish 0 session call) ∧
      Queues (lone.finish 0 session call).service replies outcomes ∧
      finishActs lone.service session call = finishActs floor.service session call := by
  obtain ⟨answer, left, did⟩ := same_answer queues
  have answered : Faced i gated seat {floor with service := (floor.service.finish call).2}
      {lone with service := (lone.service.finish call).2} :=
    ⟨faced.there, faced.here, faced.kept, faced.gate⟩
  have ended := answered.put (session.resume (floor.service.finish call).1)
  have same : lone.finish 0 session call =
      {lone with service := (lone.service.finish call).2}.put 0 (session.resume (floor.service.finish call).1) := by
    rw [← answer]
    rfl
  rw [same]
  exact ⟨ended.mirrors (seatAfter_session _ _) (resume_idle floor.service busy), left, did⟩

theorem alone_permit {lone : Floor} {seat : Seat} {session : Session} {call : Session.Call}
    (here : lone.seats = [seat]) (held : seat.session = some session) (busy : session.call = some call)
    (gate : lone.gate = some ⟨0, [0], []⟩) :
    lone.step (.permit 1) = {lone with gate := some (.start 0)}.finish 0 session call ∧
      lone.acts (.permit 1) = tagged 0 (finishActs lone.service session call) := by
  obtain ⟨seats, service, gate⟩ := lone
  cases here
  cases gate
  have opened : Gate.add ⟨0, [0], []⟩ 1 = ⟨0, [], [0]⟩ := rfl
  have passed : Gate.pass ⟨0, [], [0]⟩ 0 = some (.start 0) := rfl
  have order : List.range [seat].length = [0] := rfl
  constructor
  · simp only [step, permit, order, List.foldl_cons, List.foldl_nil, Option.map_some, opened]
    simp [proceed, sessionAt, held, busy, passed]
  · simp only [acts, order, Option.map_some, opened, sweepActs, List.append_nil]
    simp [proceedActs, sessionAt, held, busy, passed]

theorem Mirrors.sessionAt {lone : Floor} (mirrors : Mirrors i gated floor lone) :
    lone.sessionAt 0 = floor.sessionAt i := by
  have same : lone.seats[0]? = floor.seats[i]? := by
    rw [mirrors.seats]
    cases floor.seats[i]? <;> rfl
  rw [Floor.sessionAt, same, Floor.sessionAt]

theorem journal_frame (floor : Floor) (j : Nat) (raw : String) (rest : List Event) :
    floor.journal (.frame j raw :: rest) = tagged j (floor.frameActs j raw) ++ (floor.frame j raw).journal rest := rfl

theorem Queues.begin {service : Service} {replies : List LlmReply} {outcomes : List CallResult}
    (queues : Queues service replies outcomes) (catalog : List Tool) (call : Session.Call) :
    Queues (service.begin catalog call) replies outcomes := by
  cases call <;> exact ⟨queues.replies, queues.outcomes⟩

theorem begun_quiet (gated : Bool) (catalog : List Tool) (call : Session.Call) (acts : List Act) :
    (Act.begun catalog call :: acts).filterMap Act.reply? = acts.filterMap Act.reply? ∧
      (Act.begun catalog call :: acts).filterMap Act.outcome? = acts.filterMap Act.outcome? ∧
      days gated (.begun catalog call :: acts) = days gated acts := by
  cases call <;> exact ⟨rfl, rfl, rfl⟩

theorem Faced.begun {lone : Floor} {seat : Seat} (faced : Faced i gated seat floor lone) (catalog : List Tool)
    (call : Session.Call) {gate rest : Option Gate} (kept : rest.isSome = gated)
    (shut : gate = if gated then some (.start 0) else none) :
    Faced i gated seat ⟨floor.seats, floor.service.begin catalog call, rest⟩
      ⟨lone.seats, lone.service.begin catalog call, gate⟩ :=
  ⟨faced.there, faced.here, kept, shut⟩

theorem Faced.begin_at_once {lone : Floor} {seat : Seat} {session : Session} {call : Session.Call}
    {replies : List LlmReply} {outcomes : List CallResult} (faced : Faced i gated seat floor lone)
    (busy : session.call = some call) (free : gated = false ∨ ∃ text, call = .plan text)
    (queues : Queues lone.service ((floor.beginActs i session call).filterMap Act.reply? ++ replies)
      ((floor.beginActs i session call).filterMap Act.outcome? ++ outcomes)) :
    days gated (floor.beginActs i session call) = [] ∧
      Mirrors i gated (floor.begin i session call) (lone.begin 0 session call) ∧
      Queues (lone.begin 0 session call).service replies outcomes ∧
      lone.beginActs 0 session call = floor.beginActs i session call := by
  have openThere : floor.gate = none ∨ ∃ text, call = .plan text := by
    refine free.imp_left fun ungated => ?_
    rw [← Option.isSome_eq_false_iff.trans Option.isNone_iff_eq_none, faced.kept, ungated]
  have openHere : lone.gate = none ∨ ∃ text, call = .plan text := by
    refine free.imp_left fun ungated => ?_
    rw [faced.gate, ungated]
    rfl
  have noPermit : (Act.ended (floor.service.begin session.catalog call) call).events gated = [] := by
    rcases free with rfl | ⟨text, rfl⟩
    · cases call <;> rfl
    · rfl
  obtain ⟨begun, did⟩ := Floor.begin_at_once i session openThere
  obtain ⟨begunLone, didLone⟩ := Floor.begin_at_once 0 session openHere
  obtain ⟨sameReplies, sameOutcomes, sameDays⟩ := begun_quiet gated session.catalog call
    (finishActs (floor.service.begin session.catalog call) session call)
  rw [did, sameReplies, sameOutcomes] at queues
  obtain ⟨mirrors, left, same⟩ :=
    (faced.begun session.catalog call faced.kept faced.gate).finish busy (queues.begin session.catalog call)
  rw [begun, did, begunLone, didLone, sameDays, finish_days, noPermit]
  exact ⟨rfl, mirrors, left, by rw [← same]⟩

-- At the gate of its own floor a call waits for the one permit, which it gets where it got through.
theorem Faced.begin_gated {lone : Floor} {seat : Seat} {session : Session} {action : Action}
    {replies : List LlmReply} {outcomes : List CallResult} (faced : Faced i true seat floor lone)
    (held : seat.session = some session) (busy : session.call = some (.tool action))
    (queues : Queues lone.service ((floor.beginActs i session (.tool action)).filterMap Act.reply? ++ replies)
      ((floor.beginActs i session (.tool action)).filterMap Act.outcome? ++ outcomes)) :
    let begun := lone.begin 0 session (.tool action)
    let rest := days true (floor.beginActs i session (.tool action))
    Mirrors i true (floor.begin i session (.tool action)) (begun.run rest) ∧
      Queues (begun.run rest).service replies outcomes ∧
      tagged 0 (lone.beginActs 0 session (.tool action)) ++ begun.journal rest =
        tagged 0 (floor.beginActs i session (.tool action)) := by
  obtain ⟨gate, gated⟩ := Option.isSome_iff_exists.mp faced.kept
  have shut : (Gate.start 0).enter 0 = (false, ⟨0, [0], []⟩) := rfl
  obtain ⟨waits, didWait⟩ := begin_waits session action faced.gate shut
  rcases entered : gate.enter i with ⟨through, rest⟩
  cases through with
  | true =>
    obtain ⟨begun, did⟩ := begin_through session action gated entered
    obtain ⟨sameReplies, sameOutcomes, sameDays⟩ := begun_quiet true session.catalog (.tool action)
      (finishActs (floor.service.begin session.catalog (.tool action)) session (.tool action))
    rw [did, sameReplies, sameOutcomes] at queues
    have facedBegun : Faced i true seat ⟨floor.seats, floor.service.begin session.catalog (.tool action), some rest⟩
        ⟨lone.seats, lone.service.begin session.catalog (.tool action), some (.start 0)⟩ :=
      faced.begun session.catalog (.tool action) rfl rfl
    obtain ⟨mirrors, left, same⟩ := facedBegun.finish busy (queues.begin session.catalog (.tool action))
    let line : Floor := ⟨lone.seats, lone.service.begin session.catalog (.tool action), some ⟨0, [0], []⟩⟩
    have here : line.seats = [seat] := faced.here
    obtain ⟨passed, didPass⟩ := alone_permit here held busy rfl
    have permit : days true (.begun session.catalog (.tool action) ::
        finishActs (floor.service.begin session.catalog (.tool action)) session (.tool action)) = [.permit 1] := by
      rw [sameDays, finish_days]
      rfl
    have after : line.run [.permit 1] = line.step (.permit 1) := rfl
    have entries : line.journal [.permit 1] = line.acts (.permit 1) ++ [] := rfl
    simp only [begun, did, waits, didWait, permit]
    rw [after, entries, passed, didPass, List.append_nil]
    refine ⟨mirrors, left, ?_⟩
    rw [same]
    rfl
  | false =>
    obtain ⟨begun, did⟩ := begin_waits session action gated entered
    have waiting : days true [.begun session.catalog (.tool action)] = [] := rfl
    rw [did] at queues
    simp only [begun, did, waits, didWait, waiting]
    refine ⟨⟨?_, rfl, ?_, ?_⟩, queues.begin session.catalog (.tool action), rfl⟩
    · simp [run, faced.here, faced.there]
    · simp [run, faced.there, line, Seat.busy, held, busy]
    · intro session' call' present waits
      have same : some session = some session' := by simpa [sessionAt, faced.there, held] using present
      cases same
      cases busy.symm.trans waits
      exact ⟨rfl, action, rfl⟩

theorem Faced.begin {lone : Floor} {seat : Seat} {session : Session} {call : Session.Call}
    {replies : List LlmReply} {outcomes : List CallResult} (faced : Faced i gated seat floor lone)
    (held : seat.session = some session) (busy : session.call = some call)
    (queues : Queues lone.service ((floor.beginActs i session call).filterMap Act.reply? ++ replies)
      ((floor.beginActs i session call).filterMap Act.outcome? ++ outcomes)) :
    let begun := lone.begin 0 session call
    let rest := days gated (floor.beginActs i session call)
    Mirrors i gated (floor.begin i session call) (begun.run rest) ∧
      Queues (begun.run rest).service replies outcomes ∧
      tagged 0 (lone.beginActs 0 session call) ++ begun.journal rest = tagged 0 (floor.beginActs i session call) := by
  have at_once : (gated = false ∨ ∃ text, call = .plan text) → _ := fun free => faced.begin_at_once busy free queues
  cases call with
  | plan text =>
    obtain ⟨noDays, mirrors, left, same⟩ := at_once (.inr ⟨text, rfl⟩)
    rw [noDays]
    exact ⟨mirrors, left, by rw [same, journal, List.append_nil]⟩
  | tool action =>
    cases gated with
    | false =>
      obtain ⟨noDays, mirrors, left, same⟩ := at_once (.inl rfl)
      rw [noDays]
      exact ⟨mirrors, left, by rw [same, journal, List.append_nil]⟩
    | true => exact faced.begin_gated held busy queues

theorem heard_quiet (gated : Bool) (raw : String) (out : List Envelope) (acts : List Act) :
    (.heard raw :: (out.map .sent ++ acts)).filterMap Act.reply? = acts.filterMap Act.reply? ∧
      (.heard raw :: (out.map .sent ++ acts)).filterMap Act.outcome? = acts.filterMap Act.outcome? ∧
      days gated (.heard raw :: (out.map .sent ++ acts)) = .frame 0 raw :: days gated acts := by
  have heard : days gated (.heard raw :: (out.map .sent ++ acts)) =
      .frame 0 raw :: (days gated (out.map .sent ++ acts)) := rfl
  have split : days gated (out.map .sent ++ acts) = days gated (out.map .sent) ++ days gated acts :=
    List.flatMap_append
  refine ⟨?_, ?_, ?_⟩
  · rw [List.filterMap_cons_none rfl, List.filterMap_append, replies_sent, List.nil_append]
  · rw [List.filterMap_cons_none rfl, List.filterMap_append, outcomes_sent, List.nil_append]
  · rw [heard, split, days_sent, List.nil_append]

theorem follows_frame (floor : Floor) (i : Nat) (gated : Bool) (raw : String) :
    Follows i gated floor (floor.frame i raw) (floor.frameActs i raw) := by
  intro lone replies outcomes mirrors queues
  have after (rest : List Event) : lone.run (.frame 0 raw :: rest) = (lone.frame 0 raw).run rest := rfl
  have alike := mirrors.sessionAt
  rcases frame_cases floor i raw with
    ⟨deaf, kept, did⟩ | ⟨session, present, idle, ⟨next, settled, did⟩ | ⟨call, next, begun, did⟩⟩
  · obtain ⟨keptLone, didLone⟩ := frame_unheard raw (alike ▸ deaf)
    rw [did] at queues
    have day : days gated [.heard raw] = [.frame 0 raw] := rfl
    rw [did, day, after, journal_frame, kept, keptLone, didLone]
    exact ⟨mirrors, queues, rfl⟩
  · obtain ⟨seat, there, held⟩ := Option.bind_eq_some_iff.mp present
    obtain ⟨settledLone, didLone⟩ := frame_settled (alike.trans present) idle next
    obtain ⟨noReplies, noOutcomes, day⟩ := heard_quiet gated raw (session.receive raw).2 []
    rw [List.append_nil] at noReplies noOutcomes day
    rw [did, noReplies, noOutcomes] at queues
    have shown := (mirrors.faced there held idle).put (session.receive raw)
    rw [did, day, after, journal_frame, settled, settledLone, didLone]
    exact ⟨shown.mirrors (seatAfter_session seat _) next, queues, List.append_nil _⟩
  · obtain ⟨seat, there, held⟩ := Option.bind_eq_some_iff.mp present
    obtain ⟨begunLone, didLone⟩ := frame_begins (alike.trans present) idle next
    obtain ⟨sameReplies, sameOutcomes, day⟩ := heard_quiet gated raw (session.receive raw).2
      ((floor.put i (session.receive raw)).beginActs i (session.receive raw).1 call)
    rw [did, sameReplies, sameOutcomes] at queues
    have shown := (mirrors.faced there held idle).put (session.receive raw)
    obtain ⟨mirrorsAfter, left, entries⟩ := shown.begin (seatAfter_session seat _) next queues
    rw [did, day, after, journal_frame, begun, begunLone, didLone]
    refine ⟨mirrorsAfter, left, ?_⟩
    simp only [tagged, List.map_cons, List.map_append, List.cons_append, List.append_assoc] at entries ⊢
    rw [entries]

theorem follows_proceed (floor : Floor) (i : Nat) (gated : Bool) :
    Follows i gated floor (floor.proceed i) (floor.proceedActs i) := by
  rcases proceed_cases floor i with ⟨stays, did⟩ | ⟨session, call, gate, rest, present, busy, _, _, ended, did⟩
  · rw [stays, did]
    exact .spared (.refl i floor)
  · intro lone replies outcomes mirrors queues
    obtain ⟨seat, there, held⟩ := Option.bind_eq_some_iff.mp present
    obtain ⟨rfl, action, rfl⟩ := mirrors.waits session call present busy
    have here : lone.seats = [seat] := by rw [mirrors.seats, there]; rfl
    have waiting : lone.gate = some ⟨0, [0], []⟩ := by
      rw [mirrors.gate, there, line]
      simp [Seat.busy, held, busy]
    have faced : Faced i true seat {floor with gate := some rest} {lone with gate := some (.start 0)} :=
      ⟨there, here, rfl, rfl⟩
    rw [did] at queues
    obtain ⟨passed, didPass⟩ := alone_permit here held busy waiting
    obtain ⟨mirrorsAfter, left, same⟩ := faced.finish busy queues
    have permit : days true (finishActs floor.service session (.tool action)) = [.permit 1] := by
      rw [finish_days]
      rfl
    have after : lone.run [.permit 1] = lone.step (.permit 1) := rfl
    have entries : lone.journal [.permit 1] = lone.acts (.permit 1) ++ [] := rfl
    rw [did, permit, after, entries, ended, passed, didPass, List.append_nil, ← same]
    exact ⟨mirrorsAfter, left, rfl⟩

theorem newSeat_idle (listing : Except BackendError (List Json)) (session : Session)
    (held : (newSeat listing).session = some session) : session.call = none := by
  cases listing with
  | error e => cases held
  | ok raws => cases held; rfl

theorem start_quiet (listing : Except BackendError (List Json)) (gated : Bool) :
    (startActs listing).filterMap Act.reply? = [] ∧ (startActs listing).filterMap Act.outcome? = [] ∧
      days gated (startActs listing) = [.start listing] := by
  unfold startActs
  cases Session.start listing with
  | error e => exact ⟨rfl, rfl, rfl⟩
  | ok started =>
    have split : days gated (.opened listing :: started.2.map .sent) =
        .start listing :: days gated (started.2.map .sent) := rfl
    refine ⟨?_, ?_, by rw [split, days_sent]⟩
    · rw [List.filterMap_cons_none rfl, replies_sent]
    · rw [List.filterMap_cons_none rfl, outcomes_sent]

theorem follows_start (here : floor.seats.length = i) (gated : Bool) (listing : Except BackendError (List Json)) :
    Follows i gated floor (floor.start listing) (startActs listing) := by
  intro lone replies outcomes mirrors queues
  obtain ⟨noReplies, noOutcomes, day⟩ := start_quiet listing gated
  rw [noReplies, noOutcomes] at queues
  have absent : floor.seats[i]? = none := List.getElem?_eq_none (Nat.le_of_eq here)
  have empty : lone.seats = [] := by rw [mirrors.seats, absent]; rfl
  have after : lone.run [.start listing] = lone.start listing := rfl
  have entries : lone.journal [.start listing] = tagged lone.seats.length (startActs listing) ++ [] := rfl
  rw [day, after, entries, empty, List.append_nil, start_seats, start_seats, empty]
  have seat : (floor.seats ++ [newSeat listing])[i]? = some (newSeat listing) := by
    rw [← here, List.getElem?_concat_length]
  have idle := newSeat_idle listing
  refine ⟨⟨?_, mirrors.kept, ?_, ?_⟩, queues, rfl⟩
  · rw [seat]
    rfl
  · have busy : (some (newSeat listing)).any Seat.busy = false := by
      cases held : (newSeat listing).session with
      | none => simp [Seat.busy, held]
      | some session => simp [Seat.busy, held, idle session held]
    rw [mirrors.gate, absent, seat, line, line, busy]
    rfl
  · intro session call present waiting
    rw [sessionAt, seat] at present
    cases (idle session present).symm.trans waiting

theorem seats_onSeat {lone : Floor} (mirrors : Mirrors i gated floor lone) (change : Seat → Seat) :
    (lone.onSeat 0 change).seats = ((floor.onSeat i change).seats[i]?).toList := by
  rw [seat_onSeat, onSeat, mirrors.seats]
  cases floor.seats[i]? <;> rfl

theorem follows_disconnect (floor : Floor) (i : Nat) (gated : Bool) :
    Follows i gated floor (floor.step (.disconnect i)) [.cut] := by
  intro lone replies outcomes mirrors queues
  let change (seat : Seat) : Seat := {seat with connected := false, outbox := []}
  refine ⟨⟨seats_onSeat mirrors change, mirrors.kept, ?_, ?_⟩, queues, rfl⟩
  · have same : line (floor.onSeat i change).seats[i]? = line floor.seats[i]? := by
      rw [seat_onSeat]
      cases floor.seats[i]? <;> rfl
    exact mirrors.gate.trans (by rw [← same]; rfl)
  · rw [sessionAt_disconnect]
    exact mirrors.waits

theorem follows_abandon (floor : Floor) (i : Nat) (gated : Bool) :
    Follows i gated floor (floor.abandon i) [.left] := by
  intro lone replies outcomes mirrors queues
  let change (seat : Seat) : Seat := {seat with session := none}
  refine ⟨⟨seats_onSeat mirrors change, ?_, ?_, ?_⟩, queues, rfl⟩
  · exact Option.isSome_map.trans mirrors.kept
  · have after : (lone.run (days gated [.left])).gate = lone.gate.map fun gate => gate.leave 0 := rfl
    have leaves : (line floor.seats[i]?).leave 0 = .start 0 := by
      unfold line
      split <;> rfl
    have empty : line (floor.abandon i).seats[i]? = .start 0 := by
      rw [abandon, seat_onSeat]
      cases floor.seats[i]? <;> rfl
    rw [after, mirrors.gate, empty]
    cases gated with
    | false => rfl
    | true => exact congrArg some leaves
  · intro session call present
    cases (sessionAt_abandon floor i).symm.trans present

theorem steady_follows (floor : Floor) (i : Nat) (gated : Bool) : Steady i (Follows i gated floor) where
  spared spares kept := by
    have still := kept.trans (.spared spares)
    rwa [List.append_nil] at still
  start listing here kept := kept.trans (follows_start here gated listing)
  frame raw kept := kept.trans (follows_frame _ i gated raw)
  disconnect kept := kept.trans (follows_disconnect _ i gated)
  abandon kept := kept.trans (follows_abandon _ i gated)
  proceed kept := kept.trans (follows_proceed _ i gated)

theorem follows_moves (floor : Floor) (i : Nat) (gated : Bool) (moves : List Move) :
    Follows i gated floor (floor.follow moves) (own i (floor.record moves)) :=
  (steady_follows floor i gated).follow (.spared (.refl i floor)) moves

end

-- Whatever happens on a floor, in whatever order its calls go on and whatever tools each client finds, each seat fares
-- as on a floor of its own, and a frame for one seat leaves every other as it is.
theorem sessions_isolated (service : Service) (gate : Option Gate) (moves : List Move) :
    let floor : Floor := ⟨[], service, gate⟩
    Logged service (floor.follow moves).service ((floor.record moves).map Prod.snd) ∧
    (∀ i,
      let story := own i (floor.record moves)
      let lone := alone gate story
      let after := lone.run (days gate.isSome story)
      story.filterMap Act.listing? = ((moves.filterMap Move.listing?)[i]?).toList ∧
      story.filterMap Act.frame? = moves.filterMap (Move.frameFor? i) ∧
      after.seats = ((floor.follow moves).seats[i]?).toList ∧
      lone.journal (days gate.isSome story) = tagged 0 story ∧
      Logged lone.service after.service story ∧
      after.service.replies = [] ∧ after.service.outcomes = []) ∧
    (∀ (floor : Floor) (i j : Nat) (raw : String), j ≠ i →
      (floor.frame j raw).seats[i]? = floor.seats[i]? ∧ own i (floor.acts (.frame j raw)) = []) ∧
    ∀ events, floor.follow (floor.movesOf events) = floor.run events ∧
      floor.record (floor.movesOf events) = floor.journal events := by
  intro floor
  refine ⟨follow_logged floor moves, fun i => ?_, ?_, follow_events floor⟩
  · let story := own i (floor.record moves)
    have mirrors : Mirrors i gate.isSome floor (alone gate story) := by
      refine ⟨rfl, rfl, ?_, fun _ _ absent => by cases absent⟩
      cases gate <;> rfl
    have queues : Queues (alone gate story).service (story.filterMap Act.reply? ++ [])
        (story.filterMap Act.outcome? ++ []) := ⟨(List.append_nil _).symm, (List.append_nil _).symm⟩
    obtain ⟨final, left, entries⟩ := follows_moves floor i gate.isSome moves _ [] [] mirrors queues
    have logged := run_logged (alone gate story) (days gate.isSome story)
    rw [entries, untagged] at logged
    exact ⟨own_listings floor i moves, own_frames floor i moves, final.seats, entries, logged, left.replies,
      left.outcomes⟩
  · intro floor i j raw different
    exact ⟨(spares_frame different floor raw).seat, own_tagged_other different _⟩

end ToolGateway.Floor
