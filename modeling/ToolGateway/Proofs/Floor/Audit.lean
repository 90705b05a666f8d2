import ToolGateway.Proofs.Floor.Isolation

namespace ToolGateway

def Session.awaited? (s : Session) : Option Action :=
  match s.call with
  | some (.tool action) => some action
  | _ => none

namespace Floor

def Act.leaves : Act → Bool
  | .left => true
  | _ => false

-- The calls of a seat as far as they are finished, with their results and records, and the one that is not.
structure Books (story : List Act) (finished : List (Action × CallResult)) (due : Option Action) : Prop where
  calls : story.filterMap Act.call? = finished.map Prod.fst ++ due.toList
  outcomes : story.filterMap Act.outcome? = finished.map Prod.snd
  audits : story.filterMap Act.audit? =
    finished.map fun done => ⟨done.1.tool, done.2.isOk, Audit.previewOf done.1.arguments⟩

-- The books of a seat on a floor. What is due is what its session waits for, and outlives the session only where the
-- seat was left after the call began.
structure Kept (i : Nat) (floor : Floor) (story : List Act) (finished : List (Action × CallResult))
    (due : Option Action) : Prop where
  books : Books story finished due
  waits : ∀ session, floor.sessionAt i = some session → session.awaited? = due
  left : ∀ action, due = some action → floor.sessionAt i = none →
    ∃ before after, story = before ++ .called action :: after ∧ .left ∈ after
  taken : ∀ action, due = some action → floor.seats[i]? ≠ none

def Accounted (i : Nat) (floor : Floor) (story : List Act) : Prop :=
  ∃ finished due, Kept i floor story finished due

section
variable {story more : List Act} {finished : List (Action × CallResult)} {due : Option Action} {action : Action}
  {act : Act}

theorem audit?_none (silent : act.outcome? = none) : act.audit? = none := by
  cases act with
  | returned action result => cases silent
  | _ => rfl

theorem Books.quiet (books : Books story finished due)
    (silent : ∀ act ∈ more, act.call? = none ∧ act.outcome? = none) : Books (story ++ more) finished due := by
  have calls : more.filterMap Act.call? = [] := List.filterMap_eq_nil_iff.mpr fun act h => (silent act h).1
  have outcomes : more.filterMap Act.outcome? = [] := List.filterMap_eq_nil_iff.mpr fun act h => (silent act h).2
  have audits : more.filterMap Act.audit? = [] :=
    List.filterMap_eq_nil_iff.mpr fun act h => audit?_none (silent act h).2
  constructor
  · rw [List.filterMap_append, calls, List.append_nil, books.calls]
  · rw [List.filterMap_append, outcomes, List.append_nil, books.outcomes]
  · rw [List.filterMap_append, audits, List.append_nil, books.audits]

theorem Books.called (books : Books story finished none) (action : Action) :
    Books (story ++ [.called action]) finished (some action) := by
  constructor
  · rw [List.filterMap_append, books.calls]
    simp [Act.call?]
  · rw [List.filterMap_append, books.outcomes]
    simp [Act.outcome?]
  · rw [List.filterMap_append, books.audits]
    simp [Act.audit?]

theorem Books.returned (books : Books story finished (some action)) (result : CallResult) :
    Books (story ++ [.returned action result]) (finished ++ [(action, result)]) none := by
  constructor
  · rw [List.filterMap_append, books.calls]
    simp [Act.call?]
  · rw [List.filterMap_append, books.outcomes]
    simp [Act.outcome?]
  · rw [List.filterMap_append, books.audits]
    simp [Act.audit?, Audit.ofCall]

theorem silent_one (silent : act.call? = none ∧ act.outcome? = none) :
    ∀ other ∈ [act], other.call? = none ∧ other.outcome? = none := by
  intro other present
  rwa [List.mem_singleton.mp present]

theorem silent_sent (out : List Envelope) : ∀ act ∈ out.map Act.sent, act.call? = none ∧ act.outcome? = none := by
  intro act present
  obtain ⟨_, _, rfl⟩ := List.mem_map.mp present
  exact ⟨rfl, rfl⟩

theorem Books.begun {call : Session.Call} {session : Session} (books : Books story finished none)
    (busy : session.call = some call) (catalog : List Tool) :
    Books (story ++ [.begun catalog call]) finished session.awaited? := by
  cases call with
  | plan text =>
    have nothing : session.awaited? = none := by rw [Session.awaited?, busy]
    rw [nothing]
    exact books.quiet (silent_one ⟨rfl, rfl⟩)
  | tool action =>
    have waits : session.awaited? = some action := by rw [Session.awaited?, busy]
    rw [waits]
    exact books.called action

theorem Books.finish {call : Session.Call} {session : Session} (books : Books story finished session.awaited?)
    (busy : session.call = some call) (service : Service) :
    ∃ finished, Books (story ++ finishActs service session call) finished none := by
  rw [finishActs, List.append_cons]
  cases call with
  | plan text =>
    have nothing : session.awaited? = none := by rw [Session.awaited?, busy]
    rw [nothing] at books
    exact ⟨finished, (books.quiet (silent_one ⟨rfl, rfl⟩)).quiet (silent_sent _)⟩
  | tool action =>
    have waits : session.awaited? = some action := by rw [Session.awaited?, busy]
    rw [waits] at books
    exact ⟨_, (books.returned service.takeOutcome.1).quiet (silent_sent _)⟩

end

section
variable {floor next : Floor} {i : Nat} {story more : List Act} {finished : List (Action × CallResult)}
  {due : Option Action} {session : Session} {call : Session.Call}

theorem awaited_idle (idle : session.call = none) : session.awaited? = none := by
  rw [Session.awaited?, idle]

-- Where a session is, the books only have to agree with it.
theorem Books.held (books : Books story finished session.awaited?) (present : floor.sessionAt i = some session) :
    Kept i floor story finished session.awaited? := by
  obtain ⟨seat, there, _⟩ := Option.bind_eq_some_iff.mp present
  constructor
  · exact books
  · intro other held
    cases present.symm.trans held
    rfl
  · intro action _ gone
    cases present.symm.trans gone
  · intro action _ absent
    cases there.symm.trans absent

theorem Books.idle (books : Books story finished none) (present : floor.sessionAt i = some session)
    (idle : session.call = none) : Accounted i floor story := by
  have waits := awaited_idle idle
  rw [← waits] at books
  exact ⟨finished, _, books.held present⟩

theorem Kept.at (kept : Kept i floor story finished due) (present : floor.sessionAt i = some session) :
    Books story finished session.awaited? := by
  rw [kept.waits session present]
  exact kept.books

theorem Accounted.complete (accounted : Accounted i floor story) (stayed : ∀ act ∈ story, act.leaves = false)
    (rests : ∀ session, floor.sessionAt i = some session → session.call = none) :
    ∃ finished, Books story finished none := by
  obtain ⟨finished, due, kept⟩ := accounted
  cases owed : due with
  | none =>
    rw [owed] at kept
    exact ⟨finished, kept.books⟩
  | some action =>
    cases present : floor.sessionAt i with
    | none =>
      obtain ⟨before, after, split, there⟩ := kept.left action owed present
      have left : Act.left ∈ story := by
        rw [split]
        exact List.mem_append_right before (List.mem_cons_of_mem _ there)
      cases stayed .left left
    | some session =>
      have waits := kept.waits session present
      rw [awaited_idle (rests session present), owed] at waits
      cases waits

theorem Accounted.quiet (accounted : Accounted i floor story)
    (seat : (next.seats[i]?).isSome = (floor.seats[i]?).isSome) (same : next.sessionAt i = floor.sessionAt i)
    (silent : ∀ act ∈ more, act.call? = none ∧ act.outcome? = none) : Accounted i next (story ++ more) := by
  obtain ⟨finished, due, kept⟩ := accounted
  refine ⟨finished, due, kept.books.quiet silent, ?_, ?_, ?_⟩
  · intro session present
    exact kept.waits session (same ▸ present)
  · intro action owed gone
    obtain ⟨before, after, rfl, there⟩ := kept.left action owed (same ▸ gone)
    exact ⟨before, after ++ more, by simp, List.mem_append_left more there⟩
  · intro action owed absent
    apply kept.taken action owed
    rw [absent, Option.isSome_none] at seat
    cases there : floor.seats[i]? with
    | none => rfl
    | some other =>
      rw [there] at seat
      cases seat

theorem Accounted.moved (accounted : Accounted i floor story) (same : next.seats[i]? = floor.seats[i]?) :
    Accounted i next story := by
  have session : next.sessionAt i = floor.sessionAt i := by rw [sessionAt, sessionAt, same]
  have still : Accounted i next (story ++ []) := accounted.quiet (by rw [same]) session (by simp)
  rwa [List.append_nil] at still

theorem Accounted.finish (accounted : Accounted i floor story) (present : floor.sessionAt i = some session)
    (busy : session.call = some call) :
    Accounted i (floor.finish i session call) (story ++ finishActs floor.service session call) := by
  obtain ⟨finished, due, kept⟩ := accounted
  obtain ⟨more, books⟩ := (kept.at present).finish busy floor.service
  let answered : Floor := {floor with service := (floor.service.finish call).2}
  have goesOn : answered.sessionAt i = some session := present
  apply books.idle
  · exact sessionAt_put goesOn _
  · exact resume_idle floor.service busy

theorem Accounted.begin (accounted : Accounted i floor (story ++ [.begun session.catalog call]))
    (present : floor.sessionAt i = some session) (busy : session.call = some call) :
    Accounted i (floor.begin i session call) (story ++ floor.beginActs i session call) := by
  obtain ⟨line, _, ⟨ends, did⟩ | ⟨waits, did⟩⟩ := begin_cases floor i session call
  · let called : Floor := ⟨floor.seats, floor.service.begin session.catalog call, line⟩
    have moved : called.seats[i]? = floor.seats[i]? := rfl
    have goesOn : called.sessionAt i = some session := present
    rw [ends, did, List.append_cons]
    exact (accounted.moved moved).finish goesOn busy
  · rw [waits, did]
    exact accounted.moved rfl

theorem Accounted.frame (accounted : Accounted i floor story) (raw : String) :
    Accounted i (floor.frame i raw) (story ++ floor.frameActs i raw) := by
  rcases frame_cases floor i raw with ⟨_, kept, did⟩ | ⟨session, present, idle, heard⟩
  · rw [kept, did]
    exact accounted.quiet rfl rfl (silent_one ⟨rfl, rfl⟩)
  · obtain ⟨finished, due, kept⟩ := accounted
    have nothing := kept.at present
    rw [awaited_idle idle] at nothing
    have goes := sessionAt_put present (session.receive raw)
    have heardBooks : Books (story ++ .heard raw :: (session.receive raw).2.map .sent) finished none := by
      apply nothing.quiet
      rw [List.forall_mem_cons]
      exact ⟨⟨rfl, rfl⟩, silent_sent _⟩
    rcases heard with ⟨next, settled, did⟩ | ⟨call, next, begun, did⟩
    · rw [settled, did]
      exact heardBooks.idle goes next
    · rw [begun, did, ← List.cons_append, ← List.append_assoc]
      apply Accounted.begin _ goes next
      exact ⟨finished, _, (heardBooks.begun next _).held goes⟩

theorem Accounted.proceed (accounted : Accounted i floor story) :
    Accounted i (floor.proceed i) (story ++ floor.proceedActs i) := by
  rcases proceed_cases floor i with ⟨kept, did⟩ | ⟨session, call, gate, rest, present, busy, _, _, ended, did⟩
  · rw [kept, did, List.append_nil]
    exact accounted
  · rw [ended, did]
    let passed : Floor := {floor with gate := some rest}
    have moved : passed.seats[i]? = floor.seats[i]? := rfl
    have goesOn : passed.sessionAt i = some session := present
    exact (accounted.moved moved).finish goesOn busy

theorem Accounted.start (accounted : Accounted i floor story) (here : floor.seats.length = i)
    (listing : Except BackendError (List Json)) :
    Accounted i (floor.start listing) (story ++ startActs listing) := by
  obtain ⟨finished, due, kept⟩ := accounted
  have absent : floor.seats[i]? = none := List.getElem?_eq_none (Nat.le_of_eq here)
  have nothing : due = none := by
    cases owed : due with
    | none => rfl
    | some action => exact absurd absent (kept.taken action owed)
  have seat : (floor.start listing).seats[i]? = some (newSeat listing) := by
    rw [start_seats, ← here, List.getElem?_concat_length]
  have silent : ∀ act ∈ startActs listing, act.call? = none ∧ act.outcome? = none := by
    rw [startActs, List.forall_mem_cons]
    refine ⟨⟨rfl, rfl⟩, ?_⟩
    split
    · exact List.forall_mem_nil _
    · exact silent_sent _
  refine ⟨finished, none, (nothing ▸ kept.books).quiet silent, ?_, ?_, ?_⟩
  · intro session present
    rw [sessionAt, seat] at present
    exact awaited_idle (newSeat_idle _ session present)
  · intro action owed
    cases owed
  · intro action owed
    cases owed

theorem Accounted.abandon (accounted : Accounted i floor story) : Accounted i (floor.abandon i) (story ++ [.left]) := by
  obtain ⟨finished, due, kept⟩ := accounted
  have gone := sessionAt_abandon floor i
  refine ⟨finished, due, ?_, ?_, ?_, ?_⟩
  · exact kept.books.quiet (silent_one ⟨rfl, rfl⟩)
  · intro session present
    cases gone.symm.trans present
  · intro action owed _
    have called : action ∈ story.filterMap Act.call? := by
      rw [kept.books.calls, owed]
      simp
    obtain ⟨act, there, names⟩ := List.mem_filterMap.mp called
    obtain ⟨before, after, split⟩ := List.append_of_mem there
    have same : act = .called action := by
      cases act with
      | called other => cases names; rfl
      | _ => cases names
    exact ⟨before, after ++ [.left], by rw [split, same]; simp, List.mem_append_right after (List.mem_singleton_self _)⟩
  · intro action owed absent
    apply kept.taken action owed
    rw [Floor.abandon, seat_onSeat] at absent
    exact Option.map_eq_none_iff.mp absent

theorem Accounted.disconnect (accounted : Accounted i floor story) :
    Accounted i (floor.step (.disconnect i)) (story ++ [.cut]) := by
  apply accounted.quiet
  · rw [Floor.step, seat_onSeat, Option.isSome_map]
  · exact sessionAt_disconnect floor i
  · exact silent_one ⟨rfl, rfl⟩

theorem steady_accounted (i : Nat) : Steady i (Accounted i) where
  spared spares accounted := accounted.moved spares.seat
  start listing here accounted := accounted.start here listing
  frame raw accounted := accounted.frame raw
  disconnect accounted := accounted.disconnect
  abandon accounted := accounted.abandon
  proceed accounted := accounted.proceed

end

-- The logs of the service are the entries of the seats, and in the entries of each seat every call has its record but
-- the last one, as long as it is waited for or where it was cut short.
theorem calls_recorded (replies : List LlmReply) (outcomes : List CallResult) (gate : Option Gate)
    (events : List Event) :
    let first : Floor := ⟨[], .fresh replies outcomes, gate⟩
    let entries := first.journal events
    (first.run events).service.calls = (entries.map Prod.snd).filterMap Act.call? ∧
      (first.run events).service.audits = (entries.map Prod.snd).filterMap Act.audit? ∧
      ∀ i, Accounted i (first.run events) (own i entries) ∧
        ((∀ act ∈ own i entries, act.leaves = false) →
          (∀ session, (first.run events).sessionAt i = some session → session.call = none) →
          ∃ finished, Books (own i entries) finished none) := by
  intro first entries
  have logged := run_logged first events
  refine ⟨logged.calls, logged.audits, ?_⟩
  intro i
  have nothing : Accounted i first [] := by
    refine ⟨[], none, ⟨rfl, rfl, rfl⟩, ?_, ?_, ?_⟩
    · intro session present
      cases present
    · intro action owed
      cases owed
    · intro action owed
      cases owed
  have accounted : Accounted i (first.run events) (own i entries) := (steady_accounted i).run nothing events
  exact ⟨accounted, accounted.complete⟩

namespace Confirmed

def events : List Event := [.start (.ok []), .frame 0 "[\"user\",\"go\"]", .frame 0 "[\"user\",\"yes\"]"]

def replies : List LlmReply := [.ok "\x7b\"tool\":\"t\"\x7d"]

def first : Floor := ⟨[], .fresh replies [], none⟩

def cut : List Event := events ++ [.abandon 0]

def left : Floor := (⟨[], .fresh replies [], some (.start 0)⟩ : Floor).run cut

end Confirmed

theorem calls_recorded_confirmed :
    ((own 0 (Confirmed.first.journal Confirmed.events)).filterMap Act.call?).map Action.tool = ["t"] ∧
      ∃ finished, Books (own 0 (Confirmed.first.journal Confirmed.events)) finished none := by
  have called : ((own 0 (Confirmed.first.journal Confirmed.events)).filterMap Act.call?).map Action.tool =
      ["t"] := by decide +kernel
  have stays : (own 0 (Confirmed.first.journal Confirmed.events)).all (fun act => !act.leaves) = true := by
    decide +kernel
  have idle : ((Confirmed.first.run Confirmed.events).sessionAt 0).any (fun session => session.call.isSome) =
      false := by decide +kernel
  have stayed : ∀ act ∈ own 0 (Confirmed.first.journal Confirmed.events), act.leaves = false := by
    intro act present
    rw [List.all_eq_true] at stays
    have stay := stays act present
    rwa [Bool.not_eq_true'] at stay
  have rests : ∀ found : Option Session, found.any (fun session => session.call.isSome) = false →
      ∀ session, found = some session → session.call = none := by
    intro found idle session present
    rw [present, Option.any_some] at idle
    rwa [Option.isSome_eq_false_iff, Option.isNone_iff_eq_none] at idle
  have counted := calls_recorded Confirmed.replies [] none Confirmed.events
  exact ⟨called, (counted.2.2 0).2 stayed (rests _ idle)⟩

-- Where no session waits any more, there need not be a record for every call.
theorem dropped_call_unrecorded :
    ¬ ∀ replies outcomes gate events,
      let floor := (⟨[], .fresh replies outcomes, gate⟩ : Floor).run events
      (∀ i session, floor.sessionAt i = some session → session.call = none) →
        floor.service.audits.length = floor.service.calls.length := by
  intro always
  have vacant : Confirmed.left.seats.map (fun seat => seat.session.isSome) = [false] := by decide +kernel
  have rests : ∀ i session, Confirmed.left.sessionAt i = some session → session.call = none := by
    intro i session present
    obtain ⟨seat, there, held⟩ := Option.bind_eq_some_iff.mp present
    have gone : seat.session.isSome ∈ Confirmed.left.seats.map (fun seat => seat.session.isSome) :=
      List.mem_map_of_mem (List.mem_of_getElem? there)
    rw [vacant, List.mem_singleton, held] at gone
    cases gone
  have calls : Confirmed.left.service.calls.length = 1 := by decide +kernel
  have audits : Confirmed.left.service.audits.length = 0 := by decide +kernel
  have equal : Confirmed.left.service.audits.length = Confirmed.left.service.calls.length :=
    always Confirmed.replies [] (some (.start 0)) Confirmed.cut rests
  rw [calls, audits] at equal
  cases equal

end Floor
end ToolGateway
