import ToolGateway.Session.Floor

namespace ToolGateway.Floor

inductive Act where
  | opened (listing : Except BackendError (List Json))
  -- A frame for the seat, whether or not its session can hear it.
  | heard (raw : String)
  | sent (envelope : Envelope)
  | asked (messages : List Planner.Message)
  | replied (reply : LlmReply)
  | called (action : Action)
  | returned (action : Action) (result : CallResult)
  | cut
  | left

namespace Act

def request? : Act → Option (List Planner.Message)
  | .asked messages => some messages
  | _ => none

def call? : Act → Option Action
  | .called action => some action
  | _ => none

def reply? : Act → Option LlmReply
  | .replied reply => some reply
  | _ => none

def outcome? : Act → Option CallResult
  | .returned _ result => some result
  | _ => none

def audit? : Act → Option Audit
  | .returned action result => some (.ofCall action result)
  | _ => none

def frame? : Act → Option String
  | .heard raw => some raw
  | _ => none

def listing? : Act → Option (Except BackendError (List Json))
  | .opened listing => some listing
  | _ => none

def begun (catalog : List Tool) : Session.Call → Act
  | .plan text => .asked (Planner.request catalog text)
  | .tool action => .called action

def ended (service : Service) : Session.Call → Act
  | .plan _ => .replied service.takeReply.1
  | .tool action => .returned action service.takeOutcome.1

end Act

def startActs (listing : Except BackendError (List Json)) : List Act :=
  .opened listing :: match Session.start listing with
    | .error _ => []
    | .ok (_, out) => out.map .sent

def finishActs (service : Service) (session : Session) (call : Session.Call) : List Act :=
  .ended service call :: (session.resume (service.finish call).1).2.map .sent

def beginActs (floor : Floor) (i : Nat) (session : Session) (call : Session.Call) : List Act :=
  let service := floor.service.begin session.catalog call
  .begun session.catalog call ::
    match call, floor.gate with
    | .tool _, some gate => if (gate.enter i).1 then finishActs service session call else []
    | _, _ => finishActs service session call

def frameActs (floor : Floor) (i : Nat) (raw : String) : List Act :=
  .heard raw ::
    match floor.sessionAt i with
    | none => []
    | some session =>
      if session.call.isSome then []
      else
        let after := session.receive raw
        after.2.map .sent ++
          match after.1.call with
          | none => []
          | some call => (floor.put i after).beginActs i after.1 call

def proceedActs (floor : Floor) (i : Nat) : List Act :=
  match floor.sessionAt i, floor.gate.bind fun gate => gate.pass i with
  | some session, some _ =>
    match session.call with
    | some call => finishActs floor.service session call
    | none => []
  | _, _ => []

def tagged (i : Nat) (acts : List Act) : List (Nat × Act) := acts.map fun act => (i, act)

theorem untagged (i : Nat) (acts : List Act) : (tagged i acts).map Prod.snd = acts := by
  simp [tagged, Function.comp_def]

def sweepActs : Floor → List Nat → List (Nat × Act)
  | _, [] => []
  | floor, i :: rest => tagged i (floor.proceedActs i) ++ (floor.proceed i).sweepActs rest

def acts (floor : Floor) : Event → List (Nat × Act)
  | .start listing => tagged floor.seats.length (startActs listing)
  | .frame i raw => tagged i (floor.frameActs i raw)
  | .push _ => []
  | .disconnect i => tagged i [.cut]
  | .abandon i => tagged i [.left]
  | .permit count =>
    let opened : Floor := {floor with gate := floor.gate.map fun gate => gate.add count}
    opened.sweepActs (List.range floor.seats.length)

def journal : Floor → List Event → List (Nat × Act)
  | _, [] => []
  | floor, event :: rest => floor.acts event ++ (floor.step event).journal rest

inductive Move where
  | start (listing : Except BackendError (List Json))
  | frame (seat : Nat) (raw : String)
  | push (reply : LlmReply)
  | disconnect (seat : Nat)
  | abandon (seat : Nat)
  -- Permits that nobody waits for stay free; the others go to those who wait, who have yet to use them.
  | add (count : Nat)
  | proceed (seat : Nat)

def move (floor : Floor) : Move → Floor
  | .start listing => floor.start listing
  | .frame i raw => floor.frame i raw
  | .push reply => floor.step (.push reply)
  | .disconnect i => floor.step (.disconnect i)
  | .abandon i => floor.abandon i
  | .add count => {floor with gate := floor.gate.map fun gate => gate.add count}
  | .proceed i => floor.proceed i

def moveActs (floor : Floor) : Move → List (Nat × Act)
  | .start listing => tagged floor.seats.length (startActs listing)
  | .frame i raw => tagged i (floor.frameActs i raw)
  | .disconnect i => tagged i [.cut]
  | .abandon i => tagged i [.left]
  | .proceed i => tagged i (floor.proceedActs i)
  | _ => []

def follow (floor : Floor) (moves : List Move) : Floor := moves.foldl move floor

def record : Floor → List Move → List (Nat × Act)
  | _, [] => []
  | floor, next :: rest => floor.moveActs next ++ (floor.move next).record rest

-- The moves of an event. Calls that are let through together go on in the order of their seats.
def Event.moves (seats : Nat) : Event → List Move
  | .start listing => [.start listing]
  | .frame i raw => [.frame i raw]
  | .push reply => [.push reply]
  | .disconnect i => [.disconnect i]
  | .abandon i => [.abandon i]
  | .permit count => .add count :: (List.range seats).map .proceed

def movesOf : Floor → List Event → List Move
  | _, [] => []
  | floor, event :: rest => event.moves floor.seats.length ++ (floor.step event).movesOf rest

theorem follow_append (floor : Floor) (moves more : List Move) :
    floor.follow (moves ++ more) = (floor.follow moves).follow more := List.foldl_append

theorem record_append (floor : Floor) (moves more : List Move) :
    floor.record (moves ++ more) = floor.record moves ++ (floor.follow moves).record more := by
  induction moves generalizing floor with
  | nil => rfl
  | cons next rest ih =>
    rw [List.cons_append, record, ih, record, List.append_assoc]
    rfl

theorem follow_sweep (floor : Floor) (order : List Nat) :
    floor.follow (order.map .proceed) = order.foldl proceed floor := List.foldl_map

theorem record_sweep (floor : Floor) (order : List Nat) :
    floor.record (order.map .proceed) = floor.sweepActs order := by
  induction order generalizing floor with
  | nil => rfl
  | cons i rest ih =>
    rw [List.map_cons, record, sweepActs, ← ih]
    rfl

theorem follow_event (floor : Floor) (event : Event) :
    floor.follow (event.moves floor.seats.length) = floor.step event ∧
      floor.record (event.moves floor.seats.length) = floor.acts event := by
  cases event with
  | permit count => exact ⟨follow_sweep _ _, record_sweep _ _⟩
  | _ => exact ⟨rfl, List.append_nil _⟩

-- The events of a floor are moves of it.
theorem follow_events (floor : Floor) (events : List Event) :
    floor.follow (floor.movesOf events) = floor.run events ∧
      floor.record (floor.movesOf events) = floor.journal events := by
  induction events generalizing floor with
  | nil => exact ⟨rfl, rfl⟩
  | cons event rest ih =>
    obtain ⟨goes, did⟩ := follow_event floor event
    obtain ⟨later, more⟩ := ih (floor.step event)
    rw [movesOf, follow_append, record_append, goes, did, later, more]
    exact ⟨rfl, rfl⟩

def own (i : Nat) (entries : List (Nat × Act)) : List Act :=
  entries.filterMap fun entry => if entry.1 = i then some entry.2 else none

section
variable {floor : Floor} {i : Nat} {session : Session} {call : Session.Call} {gate rest : Gate}

theorem begin_at_once (i : Nat) (session : Session) (free : floor.gate = none ∨ ∃ text, call = .plan text) :
    floor.begin i session call =
        {floor with service := floor.service.begin session.catalog call}.finish i session call ∧
      floor.beginActs i session call =
        .begun session.catalog call :: finishActs (floor.service.begin session.catalog call) session call := by
  obtain ⟨seats, service, gate⟩ := floor
  rcases free with rfl | ⟨text, rfl⟩
  · cases call <;> exact ⟨rfl, rfl⟩
  · cases gate <;> exact ⟨rfl, rfl⟩

theorem begin_through (session : Session) (action : Action) (gated : floor.gate = some gate)
    (entered : gate.enter i = (true, rest)) :
    floor.begin i session (.tool action) =
        {floor with service := floor.service.begin session.catalog (.tool action), gate := some rest}.finish
          i session (.tool action) ∧
      floor.beginActs i session (.tool action) = .begun session.catalog (.tool action) ::
        finishActs (floor.service.begin session.catalog (.tool action)) session (.tool action) := by
  constructor
  · unfold begin
    simp only [gated, entered, if_true]
  · unfold beginActs
    simp only [gated, entered, if_true]

theorem begin_waits (session : Session) (action : Action) (gated : floor.gate = some gate)
    (entered : gate.enter i = (false, rest)) :
    floor.begin i session (.tool action) =
        {floor with service := floor.service.begin session.catalog (.tool action), gate := some rest} ∧
      floor.beginActs i session (.tool action) = [.begun session.catalog (.tool action)] := by
  constructor
  · unfold begin
    simp only [gated, entered]
    rfl
  · unfold beginActs
    simp only [gated, entered]
    rfl

theorem begin_cases (floor : Floor) (i : Nat) (session : Session) (call : Session.Call) :
    ∃ line : Option Gate, line.isSome = floor.gate.isSome ∧
      let begun : Floor := {floor with service := floor.service.begin session.catalog call, gate := line}
      ((floor.begin i session call = begun.finish i session call ∧ floor.beginActs i session call =
          .begun session.catalog call :: finishActs begun.service session call) ∨
        (floor.begin i session call = begun ∧ floor.beginActs i session call = [.begun session.catalog call])) := by
  cases call with
  | plan text => exact ⟨floor.gate, rfl, .inl (begin_at_once i session (.inr ⟨text, rfl⟩))⟩
  | tool action =>
    cases gated : floor.gate with
    | none => exact ⟨none, rfl, .inl (gated ▸ begin_at_once i session (.inl gated))⟩
    | some gate =>
      rcases entered : gate.enter i with ⟨through, rest⟩
      cases through with
      | true => exact ⟨some rest, rfl, .inl (begin_through session action gated entered)⟩
      | false => exact ⟨some rest, rfl, .inr (begin_waits session action gated entered)⟩

-- A frame is not heard where no session is or where one waits for its call.
theorem frame_unheard (raw : String) (deaf : ∀ session, floor.sessionAt i = some session → session.call ≠ none) :
    floor.frame i raw = floor ∧ floor.frameActs i raw = [.heard raw] := by
  unfold frame frameActs
  cases present : floor.sessionAt i with
  | none => exact ⟨rfl, rfl⟩
  | some session =>
    have busy : session.call.isSome = true := Option.isSome_iff_ne_none.mpr (deaf session present)
    exact ⟨by simp only [busy, if_true], by simp only [busy, if_true]⟩

theorem frame_settled {raw : String} (present : floor.sessionAt i = some session) (idle : session.call = none)
    (ended : (session.receive raw).1.call = none) :
    floor.frame i raw = floor.put i (session.receive raw) ∧
      floor.frameActs i raw = .heard raw :: (session.receive raw).2.map .sent := by
  unfold frame frameActs
  simp [present, idle, ended]

theorem frame_begins {raw : String} (present : floor.sessionAt i = some session) (idle : session.call = none)
    (begun : (session.receive raw).1.call = some call) :
    floor.frame i raw = (floor.put i (session.receive raw)).begin i (session.receive raw).1 call ∧
      floor.frameActs i raw = .heard raw :: ((session.receive raw).2.map .sent ++
        (floor.put i (session.receive raw)).beginActs i (session.receive raw).1 call) := by
  unfold frame frameActs
  simp [present, idle, begun]

theorem frame_cases (floor : Floor) (i : Nat) (raw : String) :
    ((∀ session, floor.sessionAt i = some session → session.call ≠ none) ∧
      floor.frame i raw = floor ∧ floor.frameActs i raw = [.heard raw]) ∨
    ∃ session, floor.sessionAt i = some session ∧ session.call = none ∧
      (((session.receive raw).1.call = none ∧ floor.frame i raw = floor.put i (session.receive raw) ∧
          floor.frameActs i raw = .heard raw :: (session.receive raw).2.map .sent) ∨
        ∃ call, (session.receive raw).1.call = some call ∧
          floor.frame i raw = (floor.put i (session.receive raw)).begin i (session.receive raw).1 call ∧
          floor.frameActs i raw = .heard raw :: ((session.receive raw).2.map .sent ++
            (floor.put i (session.receive raw)).beginActs i (session.receive raw).1 call)) := by
  cases present : floor.sessionAt i with
  | none =>
    have deaf : ∀ session, floor.sessionAt i = some session → session.call ≠ none := by simp [present]
    exact .inl ⟨by simp, frame_unheard raw deaf⟩
  | some session =>
    cases idle : session.call with
    | some call =>
      have deaf : ∀ session, floor.sessionAt i = some session → session.call ≠ none := by simp [present, idle]
      exact .inl ⟨by simp [idle], frame_unheard raw deaf⟩
    | none =>
      refine .inr ⟨session, rfl, idle, ?_⟩
      cases next : (session.receive raw).1.call with
      | none => exact .inl ⟨rfl, frame_settled present idle next⟩
      | some call => exact .inr ⟨call, rfl, frame_begins present idle next⟩

theorem proceed_cases (floor : Floor) (i : Nat) :
    (floor.proceed i = floor ∧ floor.proceedActs i = []) ∨
    ∃ session call gate rest, floor.sessionAt i = some session ∧ session.call = some call ∧
      floor.gate = some gate ∧ gate.pass i = some rest ∧
      floor.proceed i = {floor with gate := some rest}.finish i session call ∧
      floor.proceedActs i = finishActs floor.service session call := by
  unfold proceed proceedActs
  cases present : floor.sessionAt i with
  | none => exact .inl ⟨rfl, rfl⟩
  | some session =>
    cases passes : floor.gate.bind fun gate => gate.pass i with
    | none => exact .inl ⟨rfl, rfl⟩
    | some rest =>
      obtain ⟨gate, gated, pass⟩ := Option.bind_eq_some_iff.mp passes
      cases busy : session.call with
      | none => exact .inl ⟨by simp only [busy], by simp only [busy]⟩
      | some call =>
        exact .inr ⟨session, call, gate, rest, rfl, busy, gated, pass, by simp only [busy], by simp only [busy]⟩

end

structure Logged (before after : Service) (acts : List Act) : Prop where
  requests : after.requests = before.requests ++ acts.filterMap Act.request?
  calls : after.calls = before.calls ++ acts.filterMap Act.call?
  audits : after.audits = before.audits ++ acts.filterMap Act.audit?

section
variable {one two three : Service} {acts more : List Act}

theorem Logged.refl (service : Service) : Logged service service [] :=
  ⟨by simp, by simp, by simp⟩

theorem Logged.trans (first : Logged one two acts) (second : Logged two three more) :
    Logged one three (acts ++ more) := by
  constructor
  · rw [second.requests, first.requests, List.filterMap_append, List.append_assoc]
  · rw [second.calls, first.calls, List.filterMap_append, List.append_assoc]
  · rw [second.audits, first.audits, List.filterMap_append, List.append_assoc]

end

theorem logged_quiet {acts : List Act} (service : Service)
    (quiet : ∀ act ∈ acts, act.request? = none ∧ act.call? = none ∧ act.audit? = none) :
    Logged service service acts := by
  have requests : acts.filterMap Act.request? = [] := List.filterMap_eq_nil_iff.mpr fun act h => (quiet act h).1
  have calls : acts.filterMap Act.call? = [] := List.filterMap_eq_nil_iff.mpr fun act h => (quiet act h).2.1
  have audits : acts.filterMap Act.audit? = [] := List.filterMap_eq_nil_iff.mpr fun act h => (quiet act h).2.2
  exact ⟨by simp [requests], by simp [calls], by simp [audits]⟩

theorem logged_sent (service : Service) (out : List Envelope) : Logged service service (out.map .sent) := by
  refine logged_quiet service fun act present => ?_
  obtain ⟨_, _, rfl⟩ := List.mem_map.mp present
  exact ⟨rfl, rfl, rfl⟩

theorem logged_one (service : Service) (act : Act)
    (quiet : act.request? = none ∧ act.call? = none ∧ act.audit? = none) : Logged service service [act] :=
  logged_quiet service fun _ present => List.mem_singleton.mp present ▸ quiet

section
variable (floor : Floor) (i : Nat) (session : Session) (call : Session.Call)

theorem begin_logged (service : Service) (catalog : List Tool) :
    Logged service (service.begin catalog call) [.begun catalog call] := by
  cases call <;> exact ⟨by simp [Service.begin, Act.begun, Act.request?],
    by simp [Service.begin, Act.begun, Act.call?], by simp [Service.begin, Act.begun, Act.audit?]⟩

theorem end_logged (service : Service) : Logged service (service.finish call).2 [.ended service call] := by
  cases call with
  | plan text =>
    cases queue : service.replies <;>
      exact ⟨by simp [Service.finish, Service.takeReply, queue, Act.ended, Act.request?],
        by simp [Service.finish, Service.takeReply, queue, Act.ended, Act.call?],
        by simp [Service.finish, Service.takeReply, queue, Act.ended, Act.audit?]⟩
  | tool action =>
    cases queue : service.outcomes <;>
      exact ⟨by simp [Service.finish, Service.takeOutcome, queue, Act.ended, Act.request?],
        by simp [Service.finish, Service.takeOutcome, queue, Act.ended, Act.call?],
        by simp [Service.finish, Service.takeOutcome, queue, Act.ended, Act.audit?]⟩

theorem finish_logged : Logged floor.service (floor.finish i session call).service
    (finishActs floor.service session call) :=
  (end_logged call floor.service).trans (logged_sent _ _)

theorem beginning_logged : Logged floor.service (floor.begin i session call).service
    (floor.beginActs i session call) := by
  have first := begin_logged call floor.service session.catalog
  obtain ⟨line, _, ⟨begun, did⟩ | ⟨begun, did⟩⟩ := begin_cases floor i session call
  · rw [begun, did]
    exact first.trans (finish_logged ⟨_, _, _⟩ i session call)
  · rw [begun, did]
    exact first

theorem frame_logged (raw : String) : Logged floor.service (floor.frame i raw).service (floor.frameActs i raw) := by
  have heard := logged_one floor.service (.heard raw) ⟨rfl, rfl, rfl⟩
  rcases frame_cases floor i raw with
    ⟨_, kept, did⟩ | ⟨session, _, _, ⟨_, settled, did⟩ | ⟨call, _, begun, did⟩⟩
  · rw [kept, did]
    exact heard
  · rw [settled, did]
    exact heard.trans (logged_sent _ (session.receive raw).2)
  · rw [begun, did]
    have out := heard.trans (logged_sent _ (session.receive raw).2)
    exact out.trans (beginning_logged (floor.put i (session.receive raw)) i (session.receive raw).1 call)

theorem proceed_logged : Logged floor.service (floor.proceed i).service (floor.proceedActs i) := by
  rcases proceed_cases floor i with ⟨kept, did⟩ | ⟨session, call, gate, rest, _, _, _, _, ended, did⟩
  · rw [kept, did]
    exact .refl _
  · rw [ended, did]
    exact finish_logged {floor with gate := some rest} i session call

theorem start_logged (listing : Except BackendError (List Json)) :
    Logged floor.service (floor.start listing).service (startActs listing) := by
  have opened := logged_one floor.service (.opened listing) ⟨rfl, rfl, rfl⟩
  unfold start startActs
  cases Session.start listing with
  | error e => exact opened
  | ok started => exact opened.trans (logged_sent _ _)

theorem move_logged (next : Move) :
    Logged floor.service (floor.move next).service ((floor.moveActs next).map Prod.snd) := by
  cases next with
  | start listing => rw [moveActs, untagged]; exact start_logged floor listing
  | frame i raw => rw [moveActs, untagged]; exact frame_logged floor i raw
  | push reply => exact ⟨(List.append_nil _).symm, (List.append_nil _).symm, (List.append_nil _).symm⟩
  | disconnect i => exact logged_one _ _ ⟨rfl, rfl, rfl⟩
  | abandon i => exact logged_one _ _ ⟨rfl, rfl, rfl⟩
  | add count => exact .refl _
  | proceed i => rw [moveActs, untagged]; exact proceed_logged floor i

theorem follow_logged (moves : List Move) :
    Logged floor.service (floor.follow moves).service ((floor.record moves).map Prod.snd) := by
  induction moves generalizing floor with
  | nil => exact .refl _
  | cons next rest ih =>
    rw [record, List.map_append]
    exact (move_logged floor next).trans (ih (floor.move next))

theorem run_logged (events : List Event) :
    Logged floor.service (floor.run events).service ((floor.journal events).map Prod.snd) := by
  obtain ⟨goes, did⟩ := follow_events floor events
  rw [← goes, ← did]
  exact follow_logged floor _

end

theorem seat_onSeat (floor : Floor) (i : Nat) (change : Seat → Seat) :
    (floor.onSeat i change).seats[i]? = (floor.seats[i]?).map change := by
  simp [onSeat]

theorem sessionAt_disconnect (floor : Floor) (i : Nat) :
    (floor.step (.disconnect i)).sessionAt i = floor.sessionAt i := by
  rw [step, sessionAt, sessionAt, seat_onSeat]
  cases floor.seats[i]? <;> rfl

theorem sessionAt_abandon (floor : Floor) (i : Nat) : (floor.abandon i).sessionAt i = none := by
  rw [abandon, sessionAt, seat_onSeat]
  cases floor.seats[i]? <;> rfl

theorem run_append (floor : Floor) (events more : List Event) :
    floor.run (events ++ more) = (floor.run events).run more := List.foldl_append

theorem journal_append (floor : Floor) (events more : List Event) :
    floor.journal (events ++ more) = floor.journal events ++ (floor.run events).journal more := by
  induction events generalizing floor with
  | nil => rfl
  | cons event rest ih =>
    rw [List.cons_append, journal, ih, journal, List.append_assoc]
    rfl

theorem own_append (i : Nat) (entries more : List (Nat × Act)) :
    own i (entries ++ more) = own i entries ++ own i more := List.filterMap_append

theorem own_tagged (i : Nat) (acts : List Act) : own i (tagged i acts) = acts := by
  induction acts with
  | nil => rfl
  | cons act rest ih =>
    have first : own i (tagged i (act :: rest)) = act :: own i (tagged i rest) := by simp [own, tagged]
    rw [first, ih]

theorem own_tagged_other {i j : Nat} (different : j ≠ i) (acts : List Act) : own i (tagged j acts) = [] := by
  simp [own, tagged, different]

theorem own_tagged_if (i j : Nat) (acts : List Act) : own i (tagged j acts) = if j = i then acts else [] := by
  split
  · next mine => rw [mine, own_tagged]
  · next other => exact own_tagged_other other acts

def Move.frameFor? (i : Nat) : Move → Option String
  | .frame j raw => if j = i then some raw else none
  | _ => none

def Move.listing? : Move → Option (Except BackendError (List Json))
  | .start listing => some listing
  | _ => none

-- A look at entries that passes over all but what comes to a session from outside.
structure Outward {α : Type} (look : Act → Option α) : Prop where
  sent : ∀ e, look (.sent e) = none
  begun : ∀ catalog call, look (.begun catalog call) = none
  ended : ∀ service call, look (.ended service call) = none
  cut : look .cut = none
  left : look .left = none

theorem outward_frame : Outward Act.frame? :=
  ⟨fun _ => rfl, fun _ call => by cases call <;> rfl, fun _ call => by cases call <;> rfl, rfl, rfl⟩

theorem outward_listing : Outward Act.listing? :=
  ⟨fun _ => rfl, fun _ call => by cases call <;> rfl, fun _ call => by cases call <;> rfl, rfl, rfl⟩

def Move.brings? (seats i : Nat) : Move → Option Act
  | .start listing => if seats = i then some (.opened listing) else none
  | .frame j raw => if j = i then some (.heard raw) else none
  | _ => none

section
variable {α : Type} {look : Act → Option α} (outward : Outward look) (floor : Floor) (i : Nat)
include outward

theorem Outward.shown (out : List Envelope) : (out.map Act.sent).filterMap look = [] := by
  refine List.filterMap_eq_nil_iff.mpr fun act present => ?_
  obtain ⟨e, _, rfl⟩ := List.mem_map.mp present
  exact outward.sent e

theorem Outward.finish (service : Service) (session : Session) (call : Session.Call) :
    (finishActs service session call).filterMap look = [] := by
  rw [finishActs, List.filterMap_cons_none (outward.ended service call), outward.shown]

theorem Outward.begin (session : Session) (call : Session.Call) :
    (floor.beginActs i session call).filterMap look = [] := by
  obtain ⟨line, _, ⟨_, did⟩ | ⟨_, did⟩⟩ := begin_cases floor i session call
  · rw [did, List.filterMap_cons_none (outward.begun _ call), outward.finish]
  · rw [did, List.filterMap_cons_none (outward.begun _ call)]
    rfl

theorem Outward.frame (raw : String) : (floor.frameActs i raw).filterMap look = (look (.heard raw)).toList := by
  have first {acts : List Act} (nothing : acts.filterMap look = []) :
      (.heard raw :: acts).filterMap look = (look (.heard raw)).toList := by
    cases heard : look (.heard raw) with
    | none => exact (List.filterMap_cons_none heard).trans nothing
    | some a => rw [List.filterMap_cons_some heard, nothing]; rfl
  rcases frame_cases floor i raw with ⟨_, _, did⟩ | ⟨session, _, _, ⟨_, _, did⟩ | ⟨call, _, _, did⟩⟩
  · rw [did]
    exact first rfl
  · rw [did]
    exact first (outward.shown _)
  · rw [did]
    apply first
    rw [List.filterMap_append, outward.shown, outward.begin]
    rfl

theorem Outward.proceed : (floor.proceedActs i).filterMap look = [] := by
  rcases proceed_cases floor i with ⟨_, did⟩ | ⟨session, call, gate, rest, _, _, _, _, _, did⟩
  · rw [did]
    rfl
  · rw [did]
    exact outward.finish _ _ _

theorem Outward.start (listing : Except BackendError (List Json)) :
    (startActs listing).filterMap look = (look (.opened listing)).toList := by
  have greeted : (match Session.start listing with
      | .error _ => []
      | .ok (_, out) => out.map Act.sent).filterMap look = [] := by
    cases Session.start listing with
    | error e => rfl
    | ok started => exact outward.shown _
  rw [startActs]
  cases opened : look (.opened listing) with
  | none => exact (List.filterMap_cons_none opened).trans greeted
  | some a => rw [List.filterMap_cons_some opened, greeted]; rfl

theorem Outward.move (next : Move) :
    (own i (floor.moveActs next)).filterMap look = ((next.brings? floor.seats.length i).bind look).toList := by
  have quiet {act : Act} (silent : look act = none) (j : Nat) : (own i (tagged j [act])).filterMap look = [] := by
    rw [own_tagged_if]
    split
    · exact List.filterMap_cons_none silent
    · rfl
  cases next with
  | start listing =>
    rw [moveActs, own_tagged_if, Move.brings?]
    split
    · exact outward.start listing
    · rfl
  | frame j raw =>
    rw [moveActs, own_tagged_if, Move.brings?]
    split
    · exact outward.frame floor j raw
    · rfl
  | proceed j =>
    rw [moveActs, own_tagged_if]
    split
    · exact outward.proceed floor j
    · rfl
  | disconnect j => exact quiet outward.cut j
  | abandon j => exact quiet outward.left j
  | push reply => rfl
  | add count => rfl

end

section
variable (floor : Floor) (i : Nat)

theorem begin_seats (session : Session) (call : Session.Call) :
    (floor.begin i session call).seats.length = floor.seats.length := by
  obtain ⟨line, _, ⟨goes, _⟩ | ⟨waits, _⟩⟩ := begin_cases floor i session call
  · rw [goes]
    exact List.length_modify _ _ _
  · rw [waits]

theorem frame_seats (raw : String) : (floor.frame i raw).seats.length = floor.seats.length := by
  rcases frame_cases floor i raw with ⟨_, kept, _⟩ | ⟨session, _, _, ⟨_, settled, _⟩ | ⟨call, _, begun, _⟩⟩
  · rw [kept]
  · rw [settled]
    exact List.length_modify _ _ _
  · rw [begun, begin_seats]
    exact List.length_modify _ _ _

theorem proceed_seats : (floor.proceed i).seats.length = floor.seats.length := by
  rcases proceed_cases floor i with ⟨kept, _⟩ | ⟨session, call, gate, rest, _, _, _, _, ended, _⟩
  · rw [kept]
  · rw [ended]
    exact List.length_modify _ _ _

theorem move_seats (next : Move) :
    (floor.move next).seats.length = floor.seats.length + next.listing?.toList.length := by
  cases next with
  | start listing =>
    rw [move, start]
    cases Session.start listing <;> exact List.length_append
  | frame j raw => exact frame_seats floor j raw
  | push reply => rfl
  | disconnect j => exact List.length_modify _ _ _
  | abandon j => exact List.length_modify _ _ _
  | add count => rfl
  | proceed j => exact proceed_seats floor j

theorem own_frames (moves : List Move) :
    (own i (floor.record moves)).filterMap Act.frame? = moves.filterMap (Move.frameFor? i) := by
  induction moves generalizing floor with
  | nil => rfl
  | cons next rest ih =>
    have now : (next.brings? floor.seats.length i).bind Act.frame? = next.frameFor? i := by
      cases next with
      | start listing => rw [Move.brings?]; split <;> rfl
      | frame j raw => rw [Move.brings?, Move.frameFor?]; split <;> rfl
      | _ => rfl
    rw [record, own_append, List.filterMap_append, outward_frame.move, now, ih]
    cases hears : next.frameFor? i with
    | none => rw [List.filterMap_cons_none hears]; rfl
    | some raw => rw [List.filterMap_cons_some hears]; rfl

-- A seat is opened once, by the start that finds as many seats taken as its number says.
theorem own_listings (moves : List Move) : (own i (floor.record moves)).filterMap Act.listing? =
    if i < floor.seats.length then [] else ((moves.filterMap Move.listing?)[i - floor.seats.length]?).toList := by
  induction moves generalizing floor with
  | nil => split <;> rfl
  | cons next rest ih =>
    have seats := move_seats floor next
    have now : (next.brings? floor.seats.length i).bind Act.listing? =
        if floor.seats.length = i then next.listing? else none := by
      cases next with
      | start listing => rw [Move.brings?]; split <;> rfl
      | frame j raw =>
        have nothing : (Move.frame j raw).listing? = none := rfl
        rw [nothing, ite_self, Move.brings?]
        split <;> rfl
      | _ => exact (ite_self _).symm
    rw [record, own_append, List.filterMap_append, outward_listing.move, now, ih, seats]
    cases starts : next.listing? with
    | none =>
      rw [List.filterMap_cons_none starts, ite_self]
      rfl
    | some listing =>
      rw [List.filterMap_cons_some starts, Option.toList_some, List.length_singleton]
      rcases Nat.lt_trichotomy i floor.seats.length with before | rfl | after
      · simp [before, Nat.lt_succ_of_lt before, Nat.ne_of_gt before]
      · simp
      · obtain ⟨k, rfl⟩ := Nat.exists_eq_add_of_lt after
        have later : ¬ floor.seats.length + k + 1 < floor.seats.length + 1 := by omega
        have beyond : ¬ floor.seats.length + k + 1 < floor.seats.length := by omega
        have place : floor.seats.length + k + 1 - floor.seats.length = k + 1 := by omega
        have rest : floor.seats.length + k + 1 - (floor.seats.length + 1) = k := by omega
        rw [if_neg later, if_neg beyond, if_neg (Nat.ne_of_lt after), place, rest]
        rfl

end

end ToolGateway.Floor
