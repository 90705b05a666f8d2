import Mathlib
import ToolGateway.Proofs.Session.History

namespace ToolGateway

def Action.ofPayload? (payload : Json) : Option Action :=
  (payload.textAt "tool").bind fun tool =>
    ((payload.get? "arguments").bind Json.object?).map fun arguments => ⟨tool, arguments⟩

theorem Action.ofPayload?_payload (action : Action) : Action.ofPayload? action.payload = some action := by
  have sorted : action.payload = .object [("arguments", .object action.arguments), ("tool", .text action.tool)] := by
    simp [Action.payload, Json.record, Json.Members.ofList, Json.Members.insert,
      show "arguments" < "tool" from by decide]
  simp [sorted, Action.ofPayload?, Json.textAt, Json.get?, Json.Members.find?, Json.text?, Json.object?]

def Envelope.proposal? (e : Envelope) : Option Action :=
  match e.kind with
  | .confirm => e.payload.bind Action.ofPayload?
  | _ => none

theorem Envelope.proposal?_confirm (text : String) (action : Action) :
    (Envelope.confirm text action.payload).proposal? = some action := Action.ofPayload?_payload action

namespace Session

def decision (raw : String) : Option Reply :=
  match UserMessage.userText raw with
  | .error _ => none
  | .ok text =>
    match Reply.classify text with
    | .unclear => none
    | reply => some reply

namespace Mark

def decision : Mark → Option Reply
  | .heard _ raw => Session.decision raw
  | _ => none

def proposal : Mark → Option Action
  | .sent e => e.proposal?
  | _ => none

def toolCall : Mark → Option Action
  | .began (.tool action) => some action
  | _ => none

end Mark

def verdict (trace : List Mark) : Option Reply := trace.findSome? Mark.decision

-- The actions shown, in order, each with the first decision that comes after it.
def proposals : List Mark → List (Action × Option Reply)
  | [] => []
  | mark :: rest => (mark.proposal.map fun action => (action, verdict rest)).toList ++ proposals rest

def confirmed (shown : List (Action × Option Reply)) : List Action :=
  (shown.filter fun entry => entry.2 == some .confirm).map Prod.fst

-- The action shown last, unless something has been decided since.
def standing (shown : List (Action × Option Reply)) : Option Action :=
  shown.getLast?.bind fun entry => if entry.2.isNone then some entry.1 else none

def toolCalls (trace : List Mark) : List Action := trace.filterMap Mark.toolCall

section
variable {origin s next : Session} {trace more : List Mark} {mark : Mark} {input : Input} {out : List Envelope}

theorem verdict_append (trace more : List Mark) : verdict (trace ++ more) = (verdict trace).or (verdict more) :=
  List.findSome?_append

theorem toolCalls_append (trace more : List Mark) : toolCalls (trace ++ more) = toolCalls trace ++ toolCalls more :=
  List.filterMap_append

theorem proposals_append (trace more : List Mark) :
    proposals (trace ++ more) =
      (proposals trace).map (fun entry => (entry.1, entry.2.or (verdict more))) ++ proposals more := by
  induction trace with
  | nil => rfl
  | cons mark rest ih =>
    cases shown : mark.proposal with
    | none => simp [proposals, shown, ih]
    | some action => simp [proposals, shown, ih, verdict_append]

theorem proposals_plain (plain : ∀ mark ∈ trace, mark.proposal = none) : proposals trace = [] := by
  induction trace with
  | nil => rfl
  | cons mark rest ih =>
    simp [proposals, plain mark (by simp), ih fun later present => plain later (by simp [present])]

theorem state_of_pending_none (free : s.pending = none) : s.state = .awaitingInput := by
  simp [state, free]

theorem state_of_pending_some {action : Action} (shown : s.pending = some action) :
    s.state = .awaitingConfirmation := by
  simp [state, shown]

inductive Effect (s next : Session) (added : List Mark) : Prop where
  | keeps (same : next.pending = s.pending) (plain : ∀ mark ∈ added, mark.proposal = none)
      (uncalled : toolCalls added = []) (undecided : s.pending ≠ none → verdict added = none)
      (requests : s.pending = none → ∀ state raw, .heard state raw ∈ added → state = .awaitingInput)
  | settles {action : Action} {raw : String} {reply : Reply} {rest : List Mark}
      (shown : s.pending = some action) (cleared : next.pending = none)
      (form : added = .heard .awaitingConfirmation raw :: rest) (decided : decision raw = some reply)
      (plain : ∀ mark ∈ rest, mark.proposal = none) (closed : ∀ mark ∈ rest, mark.opens = false)
      (called : toolCalls rest = if reply = .confirm then [action] else [])
  | proposes {action : Action} {answer : Answer} {text : String}
      (free : s.pending = none) (shown : next.pending = some action)
      (form : added = [.ended answer, .sent (.confirm text action.payload)])

theorem rejection_proposal (e : GatewayError) : (rejection e).proposal? = none := by
  cases e <;> rfl

theorem executed_proposal (result : CallResult) : (executed result).proposal? = none := by
  unfold executed
  split <;> rfl

theorem decision_of_error {raw : String} {e : GatewayError} (refused : UserMessage.userText raw = .error e) :
    decision raw = none := by
  simp [decision, refused]

theorem decision_of_ok {raw text : String} (heard : UserMessage.userText raw = .ok text) :
    decision raw = match Reply.classify text with
      | .unclear => none
      | reply => some reply := by
  simp only [decision, heard]

theorem marks_plain (bare : ∀ e ∈ out, e.proposal? = none) : ∀ mark ∈ marks s next out input, mark.proposal = none := by
  intro mark present
  have sent : mark ∈ out.map Mark.sent → mark.proposal = none := by
    intro inside
    obtain ⟨e, among, rfl⟩ := List.mem_map.mp inside
    exact bare e among
  cases input with
  | frame raw =>
    rcases List.mem_cons.mp present with rfl | rest
    · rfl
    · rcases List.mem_append.mp rest with inside | begun
      · exact sent inside
      · obtain ⟨call, _, rfl⟩ := List.mem_map.mp begun
        rfl
  | answer answer =>
    rcases List.mem_cons.mp present with rfl | inside
    · rfl
    · exact sent inside
  | drop => cases List.mem_singleton.mp present; rfl

theorem toolCalls_sent (out : List Envelope) : toolCalls (out.map .sent) = [] := by
  induction out with
  | nil => rfl
  | cons e rest ih => exact ih

theorem verdict_sent (out : List Envelope) : verdict (out.map .sent) = none := by
  induction out with
  | nil => rfl
  | cons e rest ih => exact ih

theorem keeps_answer {answer : Answer} (same : next.pending = s.pending) (bare : ∀ e ∈ out, e.proposal? = none) :
    Effect s next (marks s next out (.answer answer)) := by
  refine .keeps same (marks_plain bare) (toolCalls_sent out) (fun _ => verdict_sent out) ?_
  simp [marks]

theorem keeps_frame {raw : String} (same : next.pending = s.pending) (bare : ∀ e ∈ out, e.proposal? = none)
    (idle : next.call = none) (undecided : decision raw = none) : Effect s next (marks s next out (.frame raw)) := by
  have form : marks s next out (.frame raw) = .heard s.state raw :: out.map .sent := by simp [marks, idle]
  refine .keeps same (marks_plain bare) ?_ ?_ ?_
  · rw [form]
    exact toolCalls_sent out
  · have silent : (Mark.heard s.state raw).decision = none := undecided
    rw [form, verdict, List.findSome?_cons, silent]
    exact fun _ => verdict_sent out
  · intro free state later present
    rw [form] at present
    rcases List.mem_cons.mp present with equal | inside
    · cases equal
      exact state_of_pending_none free
    · obtain ⟨_, _, impossible⟩ := List.mem_map.mp inside
      cases impossible

theorem step_effect (clear : Clear s) (taken : s.step input = some (next, out)) :
    Effect s next (marks s next out input) := by
  -- Most steps send one envelope, which shows no action.
  have single {e : Envelope} (plain : e.proposal? = none) : ∀ one ∈ [e], one.proposal? = none := by
    intro one present
    rw [List.mem_singleton.mp present]
    exact plain
  cases step_sound taken with
  | rejected idle refused =>
    exact keeps_frame rfl (single (rejection_proposal _)) idle (decision_of_error refused)
  | requested idle heard free =>
    refine .keeps rfl (marks_plain (single rfl)) rfl (fun shown => absurd free shown) ?_
    simp +contextual [marks, state_of_pending_none free]
  | approved idle heard shown word =>
    have decided := decision_of_ok heard
    rw [word] at decided
    refine .settles shown rfl (by rw [marks, state_of_pending_some shown]) decided ?_ ?_ ?_
    · simp [Mark.proposal, Envelope.bot, Envelope.proposal?]
    · simp [Mark.opens]
    · rfl
  | cancelled idle heard shown word =>
    have decided := decision_of_ok heard
    rw [word] at decided
    refine .settles shown rfl (by rw [marks, state_of_pending_some shown]) decided ?_ ?_ ?_
    · simp [idle, Mark.proposal, Envelope.bot, Envelope.proposal?]
    · simp [idle, Mark.opens]
    · simp [idle, toolCalls, Mark.toolCall]
  | unclear idle heard shown word =>
    have undecided := decision_of_ok heard
    rw [word] at undecided
    exact keeps_frame rfl (single rfl) idle undecided
  | unplanned asked failed => exact keeps_answer rfl (single rfl)
  | actionless asked planned bare => exact keeps_answer rfl (single rfl)
  | proposed asked planned found =>
    exact .proposes (clear (by simp [asked])) rfl rfl
  | finished called => exact keeps_answer rfl (single (executed_proposal _))
  | dropped busy =>
    refine .keeps rfl (marks_plain fun _ absent => by cases absent) rfl (fun _ => rfl) ?_
    simp [marks]

-- Of the actions shown only the last can be undecided, and the confirmed ones have been called.
structure Accounted (trace : List Mark) (s : Session) : Prop where
  shown : ∃ settled, proposals trace = settled ++ (s.pending.map fun action => (action, none)).toList ∧
    ∀ entry ∈ settled, entry.2 ≠ none
  called : toolCalls trace = confirmed (proposals trace)

-- A later decision changes no entry that has one.
theorem decided_map {settled : List (Action × Option Reply)} (decided : ∀ entry ∈ settled, entry.2 ≠ none)
    (later : Option Reply) : settled.map (fun entry => (entry.1, entry.2.or later)) = settled := by
  have same : settled.map (fun entry => (entry.1, entry.2.or later)) = settled.map id := by
    refine List.map_congr_left fun entry present => ?_
    obtain ⟨action, first⟩ := entry
    cases first with
    | none => exact absurd rfl (decided _ present)
    | some reply => rfl
  rw [same, List.map_id]

theorem accounted_nil (free : origin.pending = none) : Accounted [] origin :=
  ⟨⟨[], by simp [proposals, free], by simp⟩, rfl⟩

theorem accounted_effect (accounted : Accounted trace s) (effect : Effect s next more) :
    Accounted (trace ++ more) next := by
  obtain ⟨⟨settled, shown, decided⟩, called⟩ := accounted
  have grown : proposals (trace ++ more) = settled ++
      (s.pending.map fun action => (action, verdict more)).toList ++ proposals more := by
    rw [proposals_append, shown, List.map_append, decided_map decided]
    cases s.pending <;> rfl
  cases effect with
  | keeps same plain uncalled undecided requests =>
    rw [proposals_plain plain, List.append_nil] at grown
    have open_same : (s.pending.map fun action => (action, verdict more)) =
        next.pending.map fun action => (action, none) := by
      cases pending : s.pending with
      | none => simp [same, pending]
      | some action => simp [same, pending, undecided (by simp [pending])]
    rw [open_same] at grown
    refine ⟨⟨settled, grown, decided⟩, ?_⟩
    rw [toolCalls_append, uncalled, called, grown, shown, same, List.append_nil]
  | @settles action raw reply rest pending cleared form word plain closed calls =>
    have later : verdict more = some reply := by simp [form, verdict, Mark.decision, word]
    have bare : proposals more = [] := by
      refine proposals_plain fun mark present => ?_
      rw [form] at present
      rcases List.mem_cons.mp present with rfl | tail
      · rfl
      · exact plain mark tail
    have callsMore : toolCalls more = toolCalls rest := by rw [form]; rfl
    rw [bare, pending, later, List.append_nil] at grown
    refine ⟨⟨settled ++ [(action, some reply)], by simpa [cleared] using grown, ?_⟩, ?_⟩
    · intro entry present
      rcases List.mem_append.mp present with old | last
      · exact decided entry old
      · simp [List.mem_singleton.mp last]
    · rw [toolCalls_append, called, grown, shown, callsMore, calls, pending]
      cases reply <;> simp [confirmed]
  | @proposes action answer text free pending form =>
    have later : proposals more = [(action, none)] := by
      simp [form, proposals, Mark.proposal, Envelope.proposal?_confirm, verdict]
    have uncalled : toolCalls more = [] := by simp [form, toolCalls, Mark.toolCall]
    rw [later, free] at grown
    refine ⟨⟨settled, by simpa [pending] using grown, decided⟩, ?_⟩
    rw [toolCalls_append, uncalled, called, grown, shown, free]
    simp [confirmed]

theorem Path.accounted (path : Path origin trace s) (clear : Clear origin) (free : origin.pending = none) :
    Accounted trace s := by
  induction path with
  | nil => exact accounted_nil free
  | step prior taken ih => exact accounted_effect ih (step_effect (prior.clear clear) taken)

-- Between two actions shown, the first decision is the one that settles the earlier of them; every
-- frame after it, decisive or not, is a new request.
def Decided (between : List Mark) : Prop :=
  ∃ before raw after, between = before ++ .heard .awaitingConfirmation raw :: after ∧
    verdict before = none ∧ decision raw ≠ none ∧
    ∀ state later, .heard state later ∈ after → state = .awaitingInput

theorem Decided.append {between : List Mark} (done : Decided between)
    (requests : ∀ state raw, .heard state raw ∈ more → state = .awaitingInput) : Decided (between ++ more) := by
  obtain ⟨before, raw, after, rfl, undecided, word, follows⟩ := done
  refine ⟨before, raw, after ++ more, by simp, undecided, word, ?_⟩
  intro state later present
  rcases List.mem_append.mp present with old | added
  · exact follows state later old
  · exact requests state later added

def Spaced (trace : List Mark) : Prop :=
  ∀ earlier first between second later, trace = earlier ++ first :: (between ++ second :: later) →
    first.proposal ≠ none → second.proposal ≠ none → (∀ mark ∈ between, mark.proposal = none) → Decided between

def Since (trace : List Mark) (s : Session) : Prop :=
  ∀ earlier last between, trace = earlier ++ last :: between → last.proposal ≠ none →
    (∀ mark ∈ between, mark.proposal = none) →
    (s.pending ≠ none → verdict between = none) ∧ (s.pending = none → Decided between)

theorem cut_before {earlier later : List Mark} (cut : trace ++ more = earlier ++ mark :: later)
    (absent : mark ∉ more) : ∃ rest, trace = earlier ++ mark :: rest ∧ later = rest ++ more := by
  rcases List.append_eq_append_iff.mp cut with ⟨inner, rfl, made⟩ | ⟨inner, rfl, made⟩
  · exact absurd (by simp [made]) absent
  · cases inner with
    | nil =>
      have whole : mark :: later = more := by simpa using made
      exact absurd (by simp [← whole]) absent
    | cons head tail =>
      obtain ⟨rfl, rfl⟩ := List.cons.inj made
      exact ⟨tail, rfl, rfl⟩

theorem Effect.plain_or_proposes (effect : Effect s next more) :
    (∀ mark ∈ more, mark.proposal = none) ∨
      s.pending = none ∧ next.pending ≠ none ∧
        ∃ answer last, more = [.ended answer, last] ∧ last.proposal ≠ none := by
  cases effect with
  | keeps same plain => exact .inl plain
  | settles shown cleared form decided plain =>
    refine .inl fun mark present => ?_
    rw [form] at present
    rcases List.mem_cons.mp present with rfl | tail
    · rfl
    · exact plain mark tail
  | @proposes action answer text free shown form =>
    exact .inr ⟨free, by simp [shown], answer, _, form, by simp [Mark.proposal, Envelope.proposal?_confirm]⟩

theorem spaced_effect (spaced : Spaced trace) (since : Since trace s) (effect : Effect s next more) :
    Spaced (trace ++ more) := by
  intro earlier first between second later cut showsFirst showsSecond plainBetween
  rcases effect.plain_or_proposes with plain | ⟨free, _, answer, last, rfl, _⟩
  · have absent : second ∉ more := fun present => showsSecond (plain second present)
    have regrouped : trace ++ more = (earlier ++ first :: between) ++ second :: later := by simpa using cut
    obtain ⟨rest, old, _⟩ := cut_before regrouped absent
    exact spaced earlier first between second rest (by simpa using old) showsFirst showsSecond plainBetween
  · have absent : ∀ mark : Mark, mark.proposal ≠ none → mark ∉ [Mark.ended answer] := by
      intro mark shows present
      rw [List.mem_singleton.mp present] at shows
      exact shows rfl
    rcases List.eq_nil_or_concat later with rfl | ⟨front, final, rfl⟩
    · have ends : (trace ++ [.ended answer]) ++ [last] = (earlier ++ first :: between) ++ [second] := by
        simpa using cut
      obtain ⟨cut, _⟩ := List.append_inj' ends rfl
      obtain ⟨rest, old, rfl⟩ := cut_before cut (absent first showsFirst)
      have plainRest : ∀ mark ∈ rest, mark.proposal = none := fun mark present => plainBetween mark (by simp [present])
      exact ((since earlier first rest old showsFirst plainRest).2 free).append (by simp)
    · have ends : (trace ++ [.ended answer]) ++ [last] =
          (earlier ++ first :: (between ++ second :: front)) ++ [final] := by
        simpa using cut
      obtain ⟨cut, _⟩ := List.append_inj' ends rfl
      have regrouped : trace ++ [.ended answer] = (earlier ++ first :: between) ++ second :: front := by
        simpa using cut
      obtain ⟨rest, old, _⟩ := cut_before regrouped (absent second showsSecond)
      exact spaced earlier first between second rest (by simpa using old) showsFirst showsSecond plainBetween

theorem since_effect (since : Since trace s) (effect : Effect s next more) : Since (trace ++ more) next := by
  intro earlier last between cut shows plainBetween
  cases effect with
  | keeps same plain uncalled undecided requests =>
    obtain ⟨rest, rfl, rfl⟩ := cut_before cut fun present => shows (plain last present)
    obtain ⟨opened, done⟩ := since earlier last rest rfl shows fun mark present => plainBetween mark (by simp [present])
    rw [same]
    refine ⟨fun pending => ?_, fun free => (done free).append (requests free)⟩
    rw [verdict_append, opened pending, undecided pending]
    rfl
  | @settles action raw reply tail pending cleared form word plain closed calls =>
    have absent : last ∉ more := by
      rw [form]
      intro present
      rcases List.mem_cons.mp present with rfl | inside
      · exact shows rfl
      · exact shows (plain last inside)
    obtain ⟨rest, rfl, rfl⟩ := cut_before cut absent
    obtain ⟨opened, _⟩ := since earlier last rest rfl shows fun mark present => plainBetween mark (by simp [present])
    refine ⟨fun still => absurd cleared still, fun _ => ⟨rest, raw, tail, by rw [form], ?_, ?_, ?_⟩⟩
    · exact opened (by simp [pending])
    · simp [word]
    · intro state later present
      exact absurd (closed _ present) (by simp [Mark.opens])
  | @proposes action answer text free shown form =>
    refine ⟨fun _ => ?_, fun gone => by simp [shown] at gone⟩
    rw [form] at cut
    rcases List.eq_nil_or_concat between with rfl | ⟨front, final, rfl⟩
    · rfl
    · -- The last mark is the proposal itself, which cannot stand between.
      have ends : (trace ++ [.ended answer]) ++ [.sent (.confirm text action.payload)] =
          (earlier ++ last :: front) ++ [final] := by
        simpa using cut
      obtain ⟨_, equal⟩ := List.append_inj' ends rfl
      have plainFinal := plainBetween final (by simp)
      rw [← (List.cons.inj equal).1] at plainFinal
      simp [Mark.proposal, Envelope.proposal?_confirm] at plainFinal

theorem Path.spaced (path : Path origin trace s) (clear : Clear origin) : Spaced trace ∧ Since trace s := by
  induction path with
  | nil => exact ⟨fun _ _ _ _ _ cut => by simp at cut, fun _ _ _ cut => by simp at cut⟩
  | step prior taken ih =>
    have effect := step_effect (prior.clear clear) taken
    exact ⟨spaced_effect ih.1 ih.2 effect, since_effect ih.2 effect⟩

theorem sent_of_marks {e : Envelope} (present : .sent e ∈ marks s next out input) : e ∈ out := by
  cases input with
  | frame raw => simpa [marks] using present
  | answer answer => simpa [marks] using present
  | drop => simp [marks] at present

theorem step_readable (taken : s.step input = some (next, out)) {e : Envelope} (present : e ∈ out)
    (kind : e.kind = .confirm) : ∃ action, e.proposal? = some action := by
  cases step_sound taken with
  | rejected idle refused =>
    rename_i error
    rw [List.mem_singleton.mp present] at kind
    cases error <;> cases kind
  | proposed asked planned found =>
    rw [List.mem_singleton.mp present]
    exact ⟨_, Envelope.proposal?_confirm _ _⟩
  | finished called =>
    rw [List.mem_singleton.mp present] at kind
    unfold executed at kind
    split at kind <;> cases kind
  | dropped => cases present
  | requested | approved | cancelled | unclear | unplanned | actionless =>
    rw [List.mem_singleton.mp present] at kind
    cases kind

theorem Path.readable (path : Path origin trace s) :
    ∀ e, .sent e ∈ trace → e.kind = .confirm → ∃ action, e.proposal? = some action := by
  induction path with
  | nil => intro e present; cases present
  | step prior taken ih =>
    intro e present kind
    rcases List.mem_append.mp present with old | added
    · exact ih e old kind
    · exact step_readable taken (sent_of_marks added) kind

end

section
variable {descriptors : Except BackendError (List Json)} {trace : List Mark} {s : Session}

-- Every call is one of the confirmed actions in their order, and the pending action is the last one
-- shown as long as nothing was decided since.
theorem tool_calls_answer_confirmations (run : Runs descriptors trace s) :
    (∀ e, .sent e ∈ trace → e.kind = .confirm → ∃ action, e.proposal? = some action) ∧
    (∀ earlier first between second later,
      trace = earlier ++ .sent first :: (between ++ .sent second :: later) →
      first.kind = .confirm → second.kind = .confirm → (∀ e, .sent e ∈ between → e.kind ≠ .confirm) →
      Decided between) ∧
    toolCalls trace = confirmed (proposals trace) ∧
    s.pending = standing (proposals trace) := by
  obtain ⟨raws, path, rfl, walked, rfl⟩ := run.parts
  have readable : ∀ e, .sent e ∈ (.sent (.bot Texts.greeting) :: path : List Mark) → e.kind = .confirm →
      ∃ action, e.proposal? = some action := by
    intro e present kind
    rcases List.mem_cons.mp present with equal | inside
    · cases equal; cases kind
    · exact walked.readable e inside kind
  obtain ⟨⟨settled, shown, decided⟩, called⟩ := walked.accounted (fun _ => rfl) rfl
  have same : proposals (.sent (.bot Texts.greeting) :: path) = proposals path := rfl
  refine ⟨readable, ?_, by rw [same]; exact called, ?_⟩
  · intro earlier first between second later cut kindFirst kindSecond plain
    cases earlier with
    | nil => cases (List.cons.inj cut).1; cases kindFirst
    | cons head tail =>
      have inner := (List.cons.inj cut).2
      have shows : ∀ e, .sent e ∈ path → e.kind = .confirm → (Mark.sent e).proposal ≠ none := by
        intro e present kind
        obtain ⟨action, found⟩ := walked.readable e present kind
        simp [Mark.proposal, found]
      refine (walked.spaced (fun _ => rfl)).1 tail (.sent first) between (.sent second) later inner
        (shows first (by simp [inner]) kindFirst) (shows second (by simp [inner]) kindSecond) ?_
      intro mark present
      cases mark with
      | sent e =>
        cases kind : e.kind with
        | confirm => exact absurd kind (plain e present)
        | _ => simp [Mark.proposal, Envelope.proposal?, kind]
      | _ => rfl
  · rw [same, shown]
    cases pending : s.pending with
    | some action => simp [standing]
    | none =>
      cases last : settled.getLast? with
      | none => simp [standing, last]
      | some entry =>
        have found := decided entry (List.mem_of_getLast? last)
        obtain ⟨action, first⟩ := entry
        cases first with
        | none => exact absurd rfl found
        | some reply => simp [standing, last]

end

namespace SecondYes

def plan : String := "\x7b\"tool\":\"t\"\x7d"
def yes : String := "[\"user\",\"yes\"]"
def action : Action := ⟨"t", []⟩
def shown : Envelope := .confirm ((Plan.parse plan).confirmText action) action.payload

def asked : List Mark :=
  [.heard .awaitingInput "[\"user\",\"go\"]", .sent (.bot Texts.thinking), .began (.plan "go"), .ended (.reply (.ok plan))]

-- The second yes finds no action and becomes a request, for which the model proposes the same again.
def between : List Mark :=
  [.heard .awaitingConfirmation yes, .sent (.bot Texts.executing), .began (.tool action),
    .ended (.outcome (.ok (.text ""))), .sent (.result Texts.done (.text "")),
    .heard .awaitingInput yes, .sent (.bot Texts.thinking), .began (.plan "yes"), .ended (.reply (.ok plan))]

def trace : List Mark := .sent (.bot Texts.greeting) :: (asked ++ .sent shown :: (between ++ [.sent shown]))

theorem runs : Runs (.ok []) trace ⟨[], some action, none⟩ := by
  have played : (⟨[], none, none⟩ : Session).play
      [.frame "[\"user\",\"go\"]", .answer (.reply (.ok plan)), .frame yes, .answer (.outcome (.ok (.text ""))),
        .frame yes, .answer (.reply (.ok plan))] =
      some (asked ++ .sent shown :: (between ++ [.sent shown]), ⟨[], some action, none⟩) := by
    cbv
  exact ⟨_, _, _, rfl, play_path played, rfl⟩

end SecondYes

theorem tool_calls_answer_confirmations_second_yes :
    Runs (.ok []) SecondYes.trace ⟨[], some SecondYes.action, none⟩ ∧
      confirmed (proposals SecondYes.trace) = [SecondYes.action] ∧
      toolCalls SecondYes.trace = confirmed (proposals SecondYes.trace) ∧
      standing (proposals SecondYes.trace) = some SecondYes.action := by
  obtain ⟨_, _, called, pending⟩ := tool_calls_answer_confirmations SecondYes.runs
  exact ⟨SecondYes.runs, by cbv, called, pending.symm⟩

-- Words of consent are not rationed: two decisive frames can stand between two actions shown.
theorem two_decisions_between_confirmations : ¬ ∀ descriptors trace s, Runs descriptors trace s →
    ∀ earlier first between second later, trace = earlier ++ .sent first :: (between ++ .sent second :: later) →
      first.kind = .confirm → second.kind = .confirm → (∀ e, .sent e ∈ between → e.kind ≠ .confirm) →
      (between.filter fun mark => mark.decision.isSome).length = 1 := by
  intro every
  have plain : ∀ e, .sent e ∈ SecondYes.between → e.kind ≠ .confirm := by
    intro e present
    simp only [SecondYes.between, List.mem_cons, Mark.sent.injEq, reduceCtorEq, List.not_mem_nil, false_or, or_false]
      at present
    rcases present with rfl | rfl | rfl <;> simp [Envelope.bot, Envelope.result]
  have cut : SecondYes.trace = .sent (.bot Texts.greeting) :: SecondYes.asked ++
      .sent SecondYes.shown :: (SecondYes.between ++ .sent SecondYes.shown :: []) := rfl
  have one := every _ _ _ SecondYes.runs _ _ _ _ _ cut rfl rfl plain
  have two : (SecondYes.between.filter fun mark => mark.decision.isSome).length = 2 := by cbv
  omega

end Session
end ToolGateway
