import ToolGateway.Proofs.Floor.Moves

namespace ToolGateway

section
variable {gate : Gate} {i : Nat}

theorem Gate.add_order (gate : Gate) (count : Nat) :
    (gate.add count).granted ++ (gate.add count).waiting = gate.granted ++ gate.waiting := by
  rw [add, List.append_assoc, List.take_append_drop]

theorem Gate.add_balance (gate : Gate) (count : Nat) :
    (gate.add count).granted.length + (gate.add count).free = gate.granted.length + gate.free + count := by
  simp only [add, List.length_append, List.length_take]
  omega

theorem Gate.add_prompt (prompt : gate.free ≠ 0 → gate.waiting = []) (count : Nat)
    (free : (gate.add count).free ≠ 0) : (gate.add count).waiting = [] := by
  apply List.drop_eq_nil_of_le
  by_cases before : gate.free = 0
  · simp only [add, before] at free
    omega
  · rw [prompt before]
    exact Nat.zero_le count

-- A caller that goes away changes nothing about the order of the others, and takes no permit along.
theorem Gate.leave_spec (distinct : (gate.granted ++ gate.waiting).Nodup)
    (prompt : gate.free ≠ 0 → gate.waiting = []) (i : Nat) :
    (gate.leave i).granted ++ (gate.leave i).waiting = (gate.granted ++ gate.waiting).filter (· != i) ∧
      ((gate.leave i).free ≠ 0 → (gate.leave i).waiting = []) ∧
      (gate.leave i).granted.length + (gate.leave i).free = gate.granted.length + gate.free := by
  let rest : Gate := {gate with waiting := gate.waiting.erase i, granted := gate.granted.erase i}
  obtain ⟨holders, line, _⟩ := List.nodup_append.mp distinct
  have order : rest.granted ++ rest.waiting = (gate.granted ++ gate.waiting).filter (· != i) := by
    rw [List.filter_append, ← holders.erase_eq_filter, ← line.erase_eq_filter]
  have still : rest.free ≠ 0 → rest.waiting = [] := by
    intro free
    have empty : gate.waiting.erase i = [] := by
      rw [prompt free]
      rfl
    exact empty
  unfold leave
  by_cases held : i ∈ gate.granted
  · have one := List.length_erase_of_mem held
    have positive := List.length_pos_of_mem held
    have balance := rest.add_balance 1
    rw [if_pos (List.contains_iff_mem.mpr held)]
    refine ⟨(rest.add_order 1).trans order, Gate.add_prompt still 1, ?_⟩
    apply balance.trans
    change (gate.granted.erase i).length + gate.free + 1 = gate.granted.length + gate.free
    omega
  · rw [if_neg (mt List.contains_iff_mem.mp held)]
    refine ⟨order, still, ?_⟩
    change (gate.granted.erase i).length + gate.free = gate.granted.length + gate.free
    rw [List.erase_of_not_mem held]

end

namespace Floor

def callAt (floor : Floor) (i : Nat) : Option Session.Call := (floor.sessionAt i).bind Session.call

-- The calls under way with their seats, in the order in which they began. A call ends when it returns, or with its
-- session.
def passed (calls : List (Nat × Action)) : Nat × Act → List (Nat × Action)
  | (i, .called action) => calls ++ [(i, action)]
  | (i, .returned _ _) => calls.filter fun call => call.1 != i
  | (i, .left) => calls.filter fun call => call.1 != i
  | _ => calls

def underWay (entries : List (Nat × Act)) : List (Nat × Action) := entries.foldl passed []

def Due : List (Nat × Action) → List (Nat × Act) → Prop
  | _, [] => True
  | calls, (i, .returned action result) :: rest =>
    (i, action) ∈ calls ∧ Due (passed calls (i, .returned action result)) rest
  | calls, entry :: rest => Due (passed calls entry) rest

def results (entries : List (Nat × Act)) : List CallResult := (entries.map Prod.snd).filterMap Act.outcome?

def askers (entries : List (Nat × Act)) : List Nat :=
  entries.filterMap fun entry => entry.2.request?.map fun _ => entry.1

def repliers (entries : List (Nat × Act)) : List Nat :=
  entries.filterMap fun entry => entry.2.reply?.map fun _ => entry.1

-- The gate of a floor after what has been done, when so many permits have been given to it.
structure Fair (permits : Nat) (floor : Floor) (entries : List (Nat × Act)) (gate : Gate) : Prop where
  gated : floor.gate = some gate
  order : gate.granted ++ gate.waiting = (underWay entries).map Prod.fst
  distinct : ((underWay entries).map Prod.fst).Nodup
  -- No call waits while a permit is free.
  prompt : gate.free ≠ 0 → gate.waiting = []
  balance : permits = (results entries).length + gate.granted.length + gate.free
  waits : ∀ i call, floor.callAt i = some call ↔ ∃ action, call = .tool action ∧ (i, action) ∈ underWay entries
  due : Due [] entries
  answered : askers entries = repliers entries

def Act.still : Act → Bool
  | .called _ => false
  | .returned _ _ => false
  | .left => false
  | _ => true

section
variable {entries more : List (Nat × Act)} {acts : List Act} {calls : List (Nat × Action)} {i j : Nat}
  {action : Action} {result : CallResult}

theorem due_append : Due calls (entries ++ more) ↔ Due calls entries ∧ Due (entries.foldl passed calls) more := by
  induction entries generalizing calls with
  | nil => exact ⟨fun due => ⟨trivial, due⟩, And.right⟩
  | cons entry rest ih =>
    obtain ⟨i, act⟩ := entry
    cases act with
    | returned action result =>
      constructor
      · rintro ⟨here, due⟩
        obtain ⟨first, later⟩ := ih.mp due
        exact ⟨⟨here, first⟩, later⟩
      · rintro ⟨⟨here, first⟩, later⟩
        exact ⟨here, ih.mpr ⟨first, later⟩⟩
    | _ => exact ih

theorem underWay_append (entries more : List (Nat × Act)) :
    underWay (entries ++ more) = more.foldl passed (underWay entries) := List.foldl_append

theorem results_append (entries more : List (Nat × Act)) :
    results (entries ++ more) = results entries ++ results more := by
  simp [results]

theorem askers_append (entries more : List (Nat × Act)) : askers (entries ++ more) = askers entries ++ askers more :=
  List.filterMap_append

theorem repliers_append (entries more : List (Nat × Act)) :
    repliers (entries ++ more) = repliers entries ++ repliers more := List.filterMap_append

theorem tagged_append (i : Nat) (acts more : List Act) : tagged i (acts ++ more) = tagged i acts ++ tagged i more :=
  List.map_append

theorem passed_still (still : ∀ act ∈ acts, act.still = true) (i : Nat) (calls : List (Nat × Action)) :
    (tagged i acts).foldl passed calls = calls := by
  induction acts with
  | nil => rfl
  | cons act rest ih =>
    obtain ⟨first, later⟩ := List.forall_mem_cons.mp still
    have kept : passed calls (i, act) = calls := by
      cases act with
      | called | returned | left => cases first
      | _ => rfl
    rw [tagged, List.map_cons, List.foldl_cons, kept]
    exact ih later

theorem due_still (still : ∀ act ∈ acts, act.still = true) (i : Nat) (calls : List (Nat × Action)) :
    Due calls (tagged i acts) := by
  induction acts with
  | nil => trivial
  | cons act rest ih =>
    obtain ⟨first, later⟩ := List.forall_mem_cons.mp still
    cases act with
    | called | returned | left => cases first
    | _ => exact ih later

theorem results_still (still : ∀ act ∈ acts, act.still = true) (i : Nat) : results (tagged i acts) = [] := by
  rw [results, untagged]
  apply List.filterMap_eq_nil_iff.mpr
  intro act present
  have quiet := still act present
  cases act with
  | returned => cases quiet
  | _ => rfl

theorem askers_tagged (i : Nat) (acts : List Act) :
    askers (tagged i acts) = List.replicate (acts.filterMap Act.request?).length i := by
  induction acts with
  | nil => rfl
  | cons act rest ih =>
    rw [tagged, List.map_cons, ← List.singleton_append, askers_append]
    rw [tagged] at ih
    rw [ih]
    cases act <;> rfl

theorem repliers_tagged (i : Nat) (acts : List Act) :
    repliers (tagged i acts) = List.replicate (acts.filterMap Act.reply?).length i := by
  induction acts with
  | nil => rfl
  | cons act rest ih =>
    rw [tagged, List.map_cons, ← List.singleton_append, repliers_append]
    rw [tagged] at ih
    rw [ih]
    cases act <;> rfl

theorem still_sent (out : List Envelope) : ∀ act ∈ out.map Act.sent, act.still = true := by
  intro act present
  obtain ⟨_, _, rfl⟩ := List.mem_map.mp present
  rfl

theorem requests_sent (out : List Envelope) : (out.map Act.sent).filterMap Act.request? = [] := by
  simp [Act.request?]

theorem seats_filter (i : Nat) (calls : List (Nat × Action)) :
    (calls.filter fun call => call.1 != i).map Prod.fst = (calls.map Prod.fst).filter (· != i) := by
  rw [List.filter_map]
  rfl

theorem mem_seats : i ∈ calls.map Prod.fst ↔ ∃ action, (i, action) ∈ calls := by
  simp

theorem mem_others : (j, action) ∈ (calls.filter fun call => call.1 != i) ↔ (j, action) ∈ calls ∧ j ≠ i := by
  simp

end

section
variable {permits count : Nat} {floor next : Floor} {entries : List (Nat × Act)} {gate : Gate} {acts : List Act}
  {i j : Nat} {action : Action} {result : CallResult} {session : Session} {call : Session.Call}

theorem callAt_spared (spares : Spares j floor next) : next.callAt j = floor.callAt j := by
  rw [callAt, callAt, sessionAt, sessionAt, spares.seat]

theorem callAt_same (others : ∀ j, i ≠ j → Spares j floor next) (here : next.callAt i = floor.callAt i) (j : Nat) :
    next.callAt j = floor.callAt j := by
  by_cases same : i = j
  · rw [← same]
    exact here
  · exact callAt_spared (others j same)

theorem callAt_put (present : floor.sessionAt i = some session) (after : Session × List Envelope) :
    (floor.put i after).callAt i = after.1.call := by
  rw [callAt, sessionAt_put present]
  rfl

theorem Fair.idle (fair : Fair permits floor entries gate) (idle : floor.callAt i = none) :
    i ∉ (underWay entries).map Prod.fst := by
  intro present
  obtain ⟨action, there⟩ := mem_seats.mp present
  have waits := (fair.waits i _).mpr ⟨action, rfl, there⟩
  cases idle.symm.trans waits

theorem Fair.apart (fair : Fair permits floor entries gate) : (gate.granted ++ gate.waiting).Nodup := by
  rw [fair.order]
  exact fair.distinct

-- Whoever holds a permit has a call to use it for.
theorem Fair.holder (fair : Fair permits floor entries gate) (held : i ∈ gate.granted) :
    ∃ action session, (i, action) ∈ underWay entries ∧ floor.sessionAt i = some session ∧
      session.call = some (.tool action) := by
  have line := List.mem_append_left gate.waiting held
  rw [fair.order] at line
  obtain ⟨action, there⟩ := mem_seats.mp line
  obtain ⟨session, present, busy⟩ := Option.bind_eq_some_iff.mp ((fair.waits i _).mpr ⟨action, rfl, there⟩)
  exact ⟨action, session, there, present, busy⟩

theorem Fair.moved (fair : Fair permits floor entries gate) (gated : next.gate = floor.gate)
    (same : ∀ j, next.callAt j = floor.callAt j) : Fair permits next entries gate := by
  refine ⟨gated.trans fair.gated, fair.order, fair.distinct, fair.prompt, fair.balance, ?_, fair.due, fair.answered⟩
  intro j call
  rw [same j]
  exact fair.waits j call

theorem Fair.still (fair : Fair permits floor entries gate) (still : ∀ act ∈ acts, act.still = true) (i : Nat)
    (answered : (acts.filterMap Act.request?).length = (acts.filterMap Act.reply?).length) :
    Fair permits floor (entries ++ tagged i acts) gate := by
  have way : underWay (entries ++ tagged i acts) = underWay entries := by
    rw [underWay_append, passed_still still]
  have done : results (entries ++ tagged i acts) = results entries := by
    rw [results_append, results_still still, List.append_nil]
  constructor
  · exact fair.gated
  · rw [way]
    exact fair.order
  · rw [way]
    exact fair.distinct
  · exact fair.prompt
  · rw [done]
    exact fair.balance
  · rw [way]
    exact fair.waits
  · exact due_append.mpr ⟨fair.due, due_still still i _⟩
  · rw [askers_append, repliers_append, askers_tagged, repliers_tagged, answered, fair.answered]

theorem Fair.waiting (fair : Fair permits floor entries gate) (idle : floor.callAt i = none) (full : gate.free = 0)
    (gated : next.gate = some {gate with waiting := gate.waiting ++ [i]})
    (busy : next.callAt i = some (.tool action)) (others : ∀ j, j ≠ i → next.callAt j = floor.callAt j) :
    Fair permits next (entries ++ [(i, .called action)]) {gate with waiting := gate.waiting ++ [i]} := by
  have way : underWay (entries ++ [(i, .called action)]) = underWay entries ++ [(i, action)] := underWay_append _ _
  have fresh := fair.idle idle
  constructor
  · exact gated
  · rw [way, List.map_append, ← fair.order, List.append_assoc]
    rfl
  · rw [way, List.map_append, List.nodup_append]
    refine ⟨fair.distinct, List.pairwise_singleton _ i, ?_⟩
    rintro j there _ last rfl
    rw [List.map_singleton, List.mem_singleton] at last
    subst last
    exact fresh there
  · exact fun free => absurd full free
  · have nothing : results [(i, .called action)] = [] := rfl
    rw [results_append, nothing, List.append_nil]
    exact fair.balance
  · intro j call
    rw [way]
    by_cases here : j = i
    · subst here
      rw [busy]
      constructor
      · intro same
        cases same
        exact ⟨action, rfl, List.mem_append_right _ (List.mem_singleton_self _)⟩
      · rintro ⟨other, rfl, there⟩
        rcases List.mem_append.mp there with earlier | last
        · exact absurd (List.mem_map_of_mem earlier) fresh
        · cases List.mem_singleton.mp last
          rfl
    · rw [others j here, fair.waits j call]
      constructor
      · rintro ⟨other, same, there⟩
        exact ⟨other, same, List.mem_append_left _ there⟩
      · rintro ⟨other, same, there⟩
        rcases List.mem_append.mp there with earlier | last
        · exact ⟨other, same, earlier⟩
        · cases List.mem_singleton.mp last
          exact absurd rfl here
  · exact due_append.mpr ⟨fair.due, trivial⟩
  · rw [askers_append, repliers_append, fair.answered]
    rfl

theorem Fair.through {free : Nat} (fair : Fair permits floor entries gate) (idle : floor.callAt i = none)
    (ready : gate.free = free + 1) (gated : next.gate = some {gate with free := free})
    (same : ∀ j, next.callAt j = floor.callAt j) (action : Action) (result : CallResult) :
    Fair permits next (entries ++ [(i, .called action), (i, .returned action result)]) {gate with free := free} := by
  have fresh := fair.idle idle
  have others : (underWay entries).filter (fun call => call.1 != i) = underWay entries := by
    apply List.filter_eq_self.mpr
    intro call there
    rw [bne_iff_ne]
    rintro rfl
    exact fresh (List.mem_map_of_mem there)
  have way : underWay (entries ++ [(i, .called action), (i, .returned action result)]) = underWay entries := by
    rw [underWay_append]
    simp [passed, others]
  constructor
  · exact gated
  · rw [way]
    exact fair.order
  · rw [way]
    exact fair.distinct
  · intro _
    apply fair.prompt
    omega
  · have balance := fair.balance
    rw [results_append, List.length_append]
    change permits = (results entries).length + 1 + gate.granted.length + free
    omega
  · intro j call
    rw [same j, way]
    exact fair.waits j call
  · refine due_append.mpr ⟨fair.due, List.mem_append_right _ (List.mem_singleton_self _), trivial⟩
  · rw [askers_append, repliers_append, fair.answered]
    rfl

theorem Fair.ends {gate' : Gate} {act : Act} (fair : Fair permits floor entries gate)
    (closes : passed (underWay entries) (i, act) = (underWay entries).filter fun call => call.1 != i)
    (order : gate'.granted ++ gate'.waiting = (gate.granted ++ gate.waiting).filter (· != i))
    (prompt : gate'.free ≠ 0 → gate'.waiting = [])
    (balance : (results (entries ++ [(i, act)])).length + gate'.granted.length + gate'.free =
      (results entries).length + gate.granted.length + gate.free)
    (due : Due (underWay entries) [(i, act)]) (quiet : act.request? = none ∧ act.reply? = none)
    (gated : next.gate = some gate') (idle : next.callAt i = none)
    (others : ∀ j, j ≠ i → next.callAt j = floor.callAt j) : Fair permits next (entries ++ [(i, act)]) gate' := by
  have way : underWay (entries ++ [(i, act)]) = (underWay entries).filter fun call => call.1 != i := by
    rw [underWay_append]
    exact closes
  constructor
  · exact gated
  · rw [way, seats_filter, order, fair.order]
  · rw [way, seats_filter]
    exact fair.distinct.filter _
  · exact prompt
  · exact fair.balance.trans balance.symm
  · intro j call
    rw [way]
    by_cases here : j = i
    · subst here
      rw [idle]
      constructor
      · intro absent
        cases absent
      · rintro ⟨action, -, there⟩
        exact absurd rfl (mem_others.mp there).2
    · rw [others j here, fair.waits j call]
      simp only [mem_others, here, ne_eq, not_false_eq_true, and_true]
  · exact due_append.mpr ⟨fair.due, due⟩
  · have asks : askers [(i, act)] = [] := by simp [askers, quiet.1]
    have replies : repliers [(i, act)] = [] := by simp [repliers, quiet.2]
    rw [askers_append, repliers_append, fair.answered, asks, replies]

theorem Fair.added (fair : Fair permits floor entries gate) (count : Nat) :
    Fair (permits + count) {floor with gate := floor.gate.map fun gate => gate.add count} entries (gate.add count) := by
  have balance := fair.balance
  have given := gate.add_balance count
  constructor
  · rw [fair.gated]
    rfl
  · exact (gate.add_order count).trans fair.order
  · exact fair.distinct
  · exact Gate.add_prompt fair.prompt count
  · omega
  · exact fair.waits
  · exact fair.due
  · exact fair.answered

theorem Fair.returns (fair : Fair permits floor entries gate) (held : i ∈ gate.granted)
    (busy : (i, action) ∈ underWay entries) (result : CallResult)
    (gated : next.gate = some {gate with granted := gate.granted.erase i}) (idle : next.callAt i = none)
    (others : ∀ j, j ≠ i → next.callAt j = floor.callAt j) :
    Fair permits next (entries ++ [(i, .returned action result)]) {gate with granted := gate.granted.erase i} := by
  obtain ⟨holders, _, apart⟩ := List.nodup_append.mp fair.apart
  have line : gate.waiting.filter (· != i) = gate.waiting := by
    apply List.filter_eq_self.mpr
    intro j there
    rw [bne_iff_ne]
    exact (apart i held j there).symm
  refine fair.ends rfl ?_ fair.prompt ?_ ⟨busy, trivial⟩ ⟨rfl, rfl⟩ gated idle others
  · rw [List.filter_append, line, holders.erase_eq_filter]
  · have one := List.length_erase_of_mem held
    have positive := List.length_pos_of_mem held
    have returned : (results [(i, .returned action result)]).length = 1 := rfl
    rw [results_append, List.length_append, returned]
    change _ + (gate.granted.erase i).length + gate.free = _
    omega

-- A session that is dropped takes its call along, and neither a permit nor a result.
theorem Fair.leaves (fair : Fair permits floor entries gate) (gated : next.gate = some (gate.leave i))
    (idle : next.callAt i = none) (others : ∀ j, j ≠ i → next.callAt j = floor.callAt j) :
    Fair permits next (entries ++ [(i, .left)]) (gate.leave i) := by
  obtain ⟨order, prompt, balance⟩ := Gate.leave_spec fair.apart fair.prompt i
  refine fair.ends rfl order prompt ?_ trivial ⟨rfl, rfl⟩ gated idle others
  have nothing : results [(i, .left)] = [] := rfl
  rw [results_append, nothing, List.append_nil]
  omega

end

end Floor
end ToolGateway
