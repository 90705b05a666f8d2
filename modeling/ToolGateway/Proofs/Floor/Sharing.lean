import ToolGateway.Proofs.Floor.Permits

namespace ToolGateway.Floor

def Event.added : Event → Nat
  | .permit count => count
  | _ => 0

def permitsOf : List Event → Nat
  | [] => 0
  | event :: rest => event.added + permitsOf rest

section
variable {permits : Nat} {floor : Floor} {entries : List (Nat × Act)} {gate rest : Gate} {i : Nat} {session : Session}
  {call : Session.Call} {action : Action}

theorem callAt_held (present : floor.sessionAt i = some session) : floor.callAt i = session.call := by
  rw [callAt, present]
  rfl

theorem callAt_finish (present : floor.sessionAt i = some session) (busy : session.call = some call) :
    (floor.finish i session call).callAt i = none := by
  have moved : ({floor with service := (floor.service.finish call).2} : Floor).sessionAt i = some session := present
  exact (callAt_put moved _).trans (resume_idle floor.service busy)

theorem proceed_through (present : floor.sessionAt i = some session) (busy : session.call = some call)
    (gated : floor.gate = some gate) (pass : gate.pass i = some rest) :
    floor.proceed i = {floor with gate := some rest}.finish i session call ∧
      floor.proceedActs i = finishActs floor.service session call := by
  unfold proceed proceedActs
  simp [present, busy, gated, pass]

theorem proceed_held (held : (floor.gate.bind fun gate => gate.pass i) = none) :
    floor.proceed i = floor ∧ floor.proceedActs i = [] := by
  unfold proceed proceedActs
  rw [held]
  exact ⟨by cases floor.sessionAt i <;> rfl, by cases floor.sessionAt i <;> rfl⟩

theorem tagged_turn (entries : List (Nat × Act)) (i : Nat) (before after : List Act) (begun ended : Act) :
    entries ++ tagged i (before ++ begun :: ended :: after) =
      entries ++ tagged i before ++ [(i, begun), (i, ended)] ++ tagged i after := by
  simp [tagged]

theorem Fair.shown (fair : Fair permits floor entries gate) (i : Nat) (out : List Envelope) :
    Fair permits floor (entries ++ tagged i (out.map .sent)) gate := by
  refine fair.still (still_sent out) i ?_
  rw [requests_sent, replies_sent]
  rfl

theorem Fair.heard (fair : Fair permits floor entries gate) (i : Nat) (raw : String) (out : List Envelope) :
    Fair permits floor (entries ++ tagged i (.heard raw :: out.map .sent)) gate := by
  have heard : Fair permits floor (entries ++ tagged i [.heard raw]) gate :=
    fair.still (List.forall_mem_singleton.mpr rfl) i rfl
  have shown := heard.shown i out
  rwa [List.append_assoc, ← tagged_append] at shown

-- The request of a frame is answered before anyone else moves.
theorem Fair.asks {text : String} (fair : Fair permits floor entries gate) (present : floor.sessionAt i = some session)
    (rested : session.call = none) (raw : String) (begun : (session.receive raw).1.call = some (.plan text)) :
    Fair permits (floor.frame i raw) (entries ++ tagged i (floor.frameActs i raw)) gate := by
  let asking := floor.put i (session.receive raw)
  obtain ⟨goes, did⟩ := frame_begins present rested begun
  obtain ⟨ends, acts⟩ : asking.begin i _ _ = _ ∧ asking.beginActs i _ _ = _ :=
    begin_at_once i (session.receive raw).1 (.inr ⟨text, rfl⟩)
  have idle : (floor.frame i raw).callAt i = none := by
    rw [goes, ends]
    exact callAt_finish (sessionAt_put present (session.receive raw)) begun
  have same := callAt_same (fun _ other => spares_frame other floor raw)
    (idle.trans ((callAt_held present).trans rested).symm)
  have gated : (floor.frame i raw).gate = floor.gate := by
    rw [goes, ends]
    rfl
  have still : ∀ act ∈ [Act.begun (session.receive raw).1.catalog (.plan text),
      .ended (asking.service.begin (session.receive raw).1.catalog (.plan text)) (.plan text)], act.still = true :=
    List.forall_mem_cons.mpr ⟨rfl, List.forall_mem_singleton.mpr rfl⟩
  rw [did, acts, finishActs, ← List.cons_append, tagged_turn]
  exact (((fair.heard i raw (session.receive raw).2).still still i rfl).moved gated same).shown i _

theorem Fair.calls (fair : Fair permits floor entries gate) (present : floor.sessionAt i = some session)
    (rested : session.call = none) (raw : String) (begun : (session.receive raw).1.call = some (.tool action)) :
    ∃ next, Fair permits (floor.frame i raw) (entries ++ tagged i (floor.frameActs i raw)) next ∧
      next.granted = gate.granted := by
  obtain ⟨goes, did⟩ := frame_begins present rested begun
  have idle : floor.callAt i = none := (callAt_held present).trans rested
  have heard := fair.heard i raw (session.receive raw).2
  have gated : (floor.put i (session.receive raw)).gate = some gate := fair.gated
  cases free : gate.free with
  | zero =>
    have entered : gate.enter i = (false, {gate with waiting := gate.waiting ++ [i]}) := by rw [Gate.enter, free]
    obtain ⟨waits, acts⟩ := begin_waits (session.receive raw).1 action gated entered
    rw [acts, ← List.cons_append] at did
    rw [did, tagged_append, ← List.append_assoc]
    refine ⟨_, heard.waiting idle free ?_ ?_ ?_, rfl⟩
    · rw [goes, waits]
    · rw [goes, waits]
      exact (callAt_put present _).trans begun
    · exact fun j other => callAt_spared (spares_frame other.symm floor raw)
  | succ left =>
    have entered : gate.enter i = (true, {gate with free := left}) := by rw [Gate.enter, free]
    obtain ⟨ends, acts⟩ := begin_through (session.receive raw).1 action gated entered
    have ended : (floor.frame i raw).callAt i = none := by
      rw [goes, ends]
      exact callAt_finish (sessionAt_put present (session.receive raw)) begun
    have same := callAt_same (fun _ other => spares_frame other floor raw) (ended.trans idle.symm)
    have passed : (floor.frame i raw).gate = some {gate with free := left} := by
      rw [goes, ends]
      rfl
    rw [did, acts, finishActs, ← List.cons_append, tagged_turn]
    exact ⟨_, (heard.through idle free passed same action _).shown i _, rfl⟩

theorem Fair.frame (fair : Fair permits floor entries gate) (i : Nat) (raw : String) :
    ∃ next, Fair permits (floor.frame i raw) (entries ++ tagged i (floor.frameActs i raw)) next ∧
      next.granted = gate.granted := by
  rcases frame_cases floor i raw with
    ⟨_, kept, did⟩ | ⟨session, present, rested, ⟨settled, goes, did⟩ | ⟨call, begun, _⟩⟩
  · rw [kept, did]
    exact ⟨gate, fair.heard i raw [], rfl⟩
  · have idle : (floor.frame i raw).callAt i = none := by
      rw [goes, callAt_put present, settled]
    have same := callAt_same (fun _ other => spares_frame other floor raw)
      (idle.trans ((callAt_held present).trans rested).symm)
    have gated : (floor.frame i raw).gate = floor.gate := by
      rw [goes]
      rfl
    rw [did]
    exact ⟨gate, (fair.heard i raw (session.receive raw).2).moved gated same, rfl⟩
  · cases call with
    | plan text => exact ⟨gate, fair.asks present rested raw begun, rfl⟩
    | tool action => exact fair.calls present rested raw begun

theorem Fair.starts (fair : Fair permits floor entries gate) (listing : Except BackendError (List Json)) :
    Fair permits (floor.start listing) (entries ++ tagged floor.seats.length (startActs listing)) gate := by
  have gated : (floor.start listing).gate = floor.gate := by rw [start_seats]
  have absent : floor.callAt floor.seats.length = none := by
    rw [callAt, sessionAt, List.getElem?_eq_none (Nat.le_refl _)]
    rfl
  have seat : (floor.start listing).sessionAt floor.seats.length = (newSeat listing).session := by
    rw [start_seats, sessionAt, List.getElem?_concat_length]
    rfl
  have idle : (floor.start listing).callAt floor.seats.length = none := by
    rw [callAt, seat]
    cases held : (newSeat listing).session with
    | none => rfl
    | some session => exact newSeat_idle _ session held
  have same := callAt_same (fun _ other => spares_start other listing) (idle.trans absent.symm)
  have still : ∀ act ∈ startActs listing, act.still = true := by
    unfold startActs
    cases Session.start listing with
    | error e => exact List.forall_mem_singleton.mpr rfl
    | ok started => exact List.forall_mem_cons.mpr ⟨rfl, still_sent _⟩
  have silent : (startActs listing).filterMap Act.request? = [] := by
    unfold startActs
    cases Session.start listing with
    | error e => rfl
    | ok started => exact requests_sent _
  refine (fair.still still _ ?_).moved gated same
  rw [silent, (start_quiet listing true).1]
  rfl

theorem Fair.disconnects (fair : Fair permits floor entries gate) (i : Nat) :
    Fair permits (floor.step (.disconnect i)) (entries ++ tagged i [.cut]) gate := by
  refine (fair.still (List.forall_mem_singleton.mpr rfl) i rfl).moved rfl ?_
  apply callAt_same (fun _ other => spares_onSeat other floor _)
  exact congrArg (·.bind Session.call) (sessionAt_disconnect floor i)

theorem Fair.abandons (fair : Fair permits floor entries gate) (i : Nat) :
    Fair permits (floor.abandon i) (entries ++ tagged i [.left]) (gate.leave i) := by
  have gated : (floor.abandon i).gate = floor.gate.map fun gate => gate.leave i := rfl
  rw [fair.gated] at gated
  refine fair.leaves gated ?_ ?_
  · rw [callAt, sessionAt_abandon]
    rfl
  · exact fun j other => callAt_spared (spares_abandon other.symm floor)

theorem Fair.proceeds (fair : Fair permits floor entries gate) (i : Nat) :
    Fair permits (floor.proceed i) (entries ++ tagged i (floor.proceedActs i))
      {gate with granted := gate.granted.erase i} := by
  by_cases held : i ∈ gate.granted
  · obtain ⟨action, session, there, present, busy⟩ := fair.holder held
    have pass : gate.pass i = some {gate with granted := gate.granted.erase i} := by
      rw [Gate.pass, if_pos (List.contains_iff_mem.mpr held)]
    obtain ⟨goes, did⟩ := proceed_through present busy fair.gated pass
    have idle : (floor.proceed i).callAt i = none := by
      rw [goes]
      exact callAt_finish present busy
    have others : ∀ j, j ≠ i → (floor.proceed i).callAt j = floor.callAt j :=
      fun j other => callAt_spared (spares_proceed other.symm floor)
    rw [did, finishActs, ← List.singleton_append, tagged_append, ← List.append_assoc]
    refine (fair.returns held there floor.service.takeOutcome.1 ?_ idle others).shown i _
    rw [goes]
    rfl
  · have nothing : (floor.gate.bind fun gate => gate.pass i) = none := by
      rw [fair.gated, Option.bind_some, Gate.pass, if_neg (mt List.contains_iff_mem.mp held)]
    obtain ⟨kept, did⟩ := proceed_held nothing
    rw [kept, did, List.erase_of_not_mem held]
    exact fair.shown i []

theorem Fair.move (fair : Fair permits floor entries gate) (next : Move) :
    ∃ after, Fair (permits + next.added) (floor.move next) (entries ++ floor.moveActs next) after := by
  cases next with
  | start listing => exact ⟨gate, fair.starts listing⟩
  | frame i raw =>
    obtain ⟨after, goesOn, _⟩ := fair.frame i raw
    exact ⟨after, goesOn⟩
  | push reply => exact ⟨gate, (fair.shown 0 []).moved rfl (fun _ => rfl)⟩
  | disconnect i => exact ⟨gate, fair.disconnects i⟩
  | abandon i => exact ⟨_, fair.abandons i⟩
  | add count => exact ⟨_, (fair.added count).shown 0 []⟩
  | proceed i => exact ⟨_, fair.proceeds i⟩

theorem Fair.follow (fair : Fair permits floor entries gate) (moves : List Move) :
    ∃ after, Fair (permits + permitsAdded moves) (floor.follow moves) (entries ++ floor.record moves) after := by
  induction moves generalizing permits floor entries gate with
  | nil => exact ⟨gate, fair.shown 0 []⟩
  | cons next rest ih =>
    obtain ⟨between, first⟩ := fair.move next
    obtain ⟨after, later⟩ := ih first
    rw [List.append_assoc, Nat.add_assoc] at later
    exact ⟨after, later⟩

-- All that hold a permit and are in the order go on; those who wait keep their places.
theorem Fair.sweep (fair : Fair permits floor entries gate) (order : List Nat) :
    ∃ after, Fair permits (order.foldl proceed floor) (entries ++ floor.sweepActs order) after ∧
      after.waiting = gate.waiting ∧ ∀ i ∈ after.granted, i ∈ gate.granted ∧ i ∉ order := by
  induction order generalizing floor entries gate with
  | nil => exact ⟨gate, fair.shown 0 [], rfl, fun i held => ⟨held, List.not_mem_nil⟩⟩
  | cons i rest ih =>
    obtain ⟨after, later, line, left⟩ := ih (fair.proceeds i)
    rw [List.append_assoc] at later
    refine ⟨after, later, line, ?_⟩
    intro j held
    obtain ⟨before, absent⟩ := left j held
    obtain ⟨other, had⟩ := (List.nodup_append.mp fair.apart).1.mem_erase_iff.mp before
    exact ⟨had, List.not_mem_cons_of_ne_of_not_mem other absent⟩

theorem Fair.seated (fair : Fair permits floor entries gate) (held : i ∈ gate.granted) :
    i ∈ List.range floor.seats.length := by
  obtain ⟨action, session, _, present, _⟩ := fair.holder held
  obtain ⟨seat, taken, _⟩ := Option.bind_eq_some_iff.mp present
  exact List.mem_range.mpr (List.getElem?_eq_some_iff.mp taken).1

theorem Fair.opened (fair : Fair permits floor entries gate) (count : Nat) :
    ∃ after, Fair (permits + count) (floor.permit count) (entries ++ floor.acts (.permit count)) after ∧
      after.granted = [] ∧ after.waiting = gate.waiting.drop count := by
  have added := fair.added count
  obtain ⟨after, goesOn, line, left⟩ := added.sweep (List.range floor.seats.length)
  refine ⟨after, goesOn, ?_, line⟩
  apply List.eq_nil_iff_forall_not_mem.mpr
  intro i held
  obtain ⟨before, absent⟩ := left i held
  exact absurd (added.seated before) absent

theorem Fair.line (fair : Fair permits floor entries gate) (used : gate.granted = []) :
    gate.waiting = (underWay entries).map Prod.fst := by
  have order := fair.order
  rwa [used] at order

theorem Fair.served (fair : Fair permits floor entries gate) (used : gate.granted = []) (count : Nat) :
    (underWay (entries ++ floor.acts (.permit count))).map Prod.fst = ((underWay entries).map Prod.fst).drop count := by
  obtain ⟨after, goesOn, rested, drops⟩ := fair.opened count
  rw [← goesOn.line rested, drops, fair.line used]

theorem Fair.event (fair : Fair permits floor entries gate) (used : gate.granted = []) (event : Event) :
    ∃ after, Fair (permits + event.added) (floor.step event) (entries ++ floor.acts event) after ∧
      after.granted = [] := by
  cases event with
  | start listing => exact ⟨gate, fair.starts listing, used⟩
  | frame i raw =>
    obtain ⟨after, goesOn, same⟩ := fair.frame i raw
    exact ⟨after, goesOn, same.trans used⟩
  | push reply => exact ⟨gate, (fair.shown 0 []).moved rfl (fun _ => rfl), used⟩
  | disconnect i => exact ⟨gate, fair.disconnects i, used⟩
  | abandon i =>
    refine ⟨_, fair.abandons i, ?_⟩
    simp [Gate.leave, used]
  | permit count =>
    obtain ⟨after, goesOn, rested, _⟩ := fair.opened count
    exact ⟨after, goesOn, rested⟩

theorem Fair.run (fair : Fair permits floor entries gate) (used : gate.granted = []) (events : List Event) :
    ∃ after, Fair (permits + permitsOf events) (floor.run events) (entries ++ floor.journal events) after ∧
      after.granted = [] := by
  induction events generalizing permits floor entries gate with
  | nil => exact ⟨gate, fair.shown 0 [], used⟩
  | cons event rest ih =>
    obtain ⟨between, first, rested⟩ := fair.event used event
    obtain ⟨after, later, final⟩ := ih first rested
    rw [List.append_assoc, Nat.add_assoc] at later
    exact ⟨after, later, final⟩

end

theorem fair_first (service : Service) (permits : Nat) :
    Fair permits ⟨[], service, some (.start permits)⟩ [] (.start permits) := by
  refine ⟨rfl, rfl, .nil, fun _ => rfl, (Nat.zero_add permits).symm, ?_, trivial, rfl⟩
  intro i call
  constructor
  · intro busy
    cases busy
  · rintro ⟨_, _, there⟩
    cases there

-- Sessions of any number share one model, one backend and its gate. Whatever moves they make, in whatever order, they
-- stand fairly at the gate and get replies and outcomes in the order of the queues. After every event all permits given
-- out are used, so that those who wait are all whose calls are under way, and they are served as they came.
theorem permits_shared_fairly (replies : List LlmReply) (outcomes : List CallResult) (permits : Nat) :
    let first : Floor := ⟨[], .fresh replies outcomes, some (.start permits)⟩
    (∀ moves : List Move,
      let after := first.follow moves
      let entries := first.record moves
      let done := entries.map Prod.snd
      (∃ gate, Fair (permits + permitsAdded moves) after entries gate) ∧
      Logged first.service after.service done ∧
      Dealt Service.exhausted replies (first.dealings moves) after.service.replies ∧
      ((∀ next ∈ moves, next.queued = []) → ∀ (k : Nat) reply, (done.filterMap Act.reply?)[k]? = some reply →
        reply = replies[k]?.getD Service.exhausted) ∧
      (∀ (k : Nat) result, (results entries)[k]? = some result → result = outcomes[k]?.getD Service.nothing) ∧
      after.service.outcomes = outcomes.drop (results entries).length) ∧
    (∀ events : List Event,
      let after := first.run events
      let entries := first.journal events
      first.follow (first.movesOf events) = after ∧ first.record (first.movesOf events) = entries ∧
      (∃ gate, Fair (permits + permitsOf events) after entries gate ∧
        permits + permitsOf events = (results entries).length + gate.free ∧
        gate.waiting = (underWay entries).map Prod.fst) ∧
      (∀ count, (underWay (first.journal (events ++ [.permit count]))).map Prod.fst =
        ((underWay entries).map Prod.fst).drop count) ∧
      ∀ i, (first.run (events ++ [.abandon i])).service = after.service ∧
        results (first.journal (events ++ [.abandon i])) = results entries ∧
        underWay (first.journal (events ++ [.abandon i])) = (underWay entries).filter fun call => call.1 != i) := by
  intro first
  have begins : Fair permits first [] (.start permits) := fair_first _ permits
  refine ⟨?_, ?_⟩
  · intro moves after entries done
    obtain ⟨lasting, left⟩ := (follow_outcomes first moves).given_exact
    refine ⟨begins.follow moves, follow_logged first moves, follow_dealt first moves, ?_, lasting, left⟩
    intro unqueued
    have dealt := follow_dealt first moves
    rw [dealings_unqueued first moves unqueued] at dealt
    exact dealt.given_exact.1
  · intro events after entries
    obtain ⟨goes, did⟩ := follow_events first events
    obtain ⟨gate, fair, used⟩ : ∃ gate, Fair _ after entries gate ∧ gate.granted = [] := begins.run rfl events
    have balance := fair.balance
    rw [used] at balance
    refine ⟨goes, did, ⟨gate, fair, balance, fair.line used⟩, ?_, ?_⟩
    · intro count
      have served := fair.served used count
      rw [journal_append, journal, journal, List.append_nil]
      exact served
    · intro i
      rw [run_append, journal_append, underWay_append, results_append]
      exact ⟨rfl, List.append_nil _, rfl⟩

namespace Crowded

def events : List Event :=
  [.start (.ok []), .start (.ok []), .frame 0 "[\"user\",\"go\"]", .frame 1 "[\"user\",\"go\"]",
    .frame 0 "[\"user\",\"yes\"]", .frame 1 "[\"user\",\"yes\"]"]

def replies : List LlmReply := [.ok "\x7b\"tool\":\"t\"\x7d", .ok "\x7b\"tool\":\"u\"\x7d"]

def outcomes : List CallResult := [.ok (.text "a"), .ok (.text "b")]

def first : Floor := ⟨[], .fresh replies outcomes, some (.start 0)⟩

def dropped : List Event := events ++ [.abandon 0]

end Crowded

-- Two calls wait, the first of them goes with its session, and the one permit lets the other through.
theorem permits_shared_fairly_dropped :
    (underWay (Crowded.first.journal Crowded.events)).map Prod.fst = [0, 1] ∧
    (underWay (Crowded.first.journal Crowded.dropped)).map Prod.fst = [1] ∧
    (underWay (Crowded.first.journal (Crowded.dropped ++ [.permit 1]))).map Prod.fst = [] ∧
    (∀ next ∈ Crowded.first.movesOf Crowded.events, next.queued = []) ∧
    ∀ (k : Nat) reply,
      (((Crowded.first.record (Crowded.first.movesOf Crowded.events)).map Prod.snd).filterMap Act.reply?)[k]? =
        some reply → reply = Crowded.replies[k]?.getD Service.exhausted := by
  obtain ⟨moves, events⟩ := permits_shared_fairly Crowded.replies Crowded.outcomes 0
  have waiting : (underWay (Crowded.first.journal Crowded.events)).map Prod.fst = [0, 1] := by decide +kernel
  have leaves : underWay (Crowded.first.journal Crowded.dropped) =
      (underWay (Crowded.first.journal Crowded.events)).filter fun call => call.1 != 0 :=
    ((events Crowded.events).2.2.2.2 0).2.2
  have left : (underWay (Crowded.first.journal Crowded.dropped)).map Prod.fst = [1] := by
    rw [leaves, seats_filter, waiting]
    rfl
  have served : (underWay (Crowded.first.journal (Crowded.dropped ++ [.permit 1]))).map Prod.fst =
      ((underWay (Crowded.first.journal Crowded.dropped)).map Prod.fst).drop 1 :=
    (events Crowded.dropped).2.2.2.1 1
  have unqueued : ∀ next ∈ Crowded.first.movesOf Crowded.events, next.queued = [] := by
    simp [movesOf, Event.moves, Crowded.events, Move.queued]
  refine ⟨waiting, left, ?_, unqueued, ?_⟩
  · rw [served, left]
    rfl
  · exact (moves (Crowded.first.movesOf Crowded.events)).2.2.2.1 unqueued

end ToolGateway.Floor
