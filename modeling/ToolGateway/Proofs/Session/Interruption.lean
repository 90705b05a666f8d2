import ToolGateway.Proofs.Floor.Departure
import ToolGateway.Proofs.Session.Transcript

namespace ToolGateway

namespace Session

-- The calls under way, as an onlooker counts them.
def Mark.track (calls : List Call) : Mark → List Call
  | .began call => calls ++ [call]
  | .ended _ => calls.tail
  | .gaveUp => calls.tail
  | _ => calls

def outstanding (trace : List Mark) : List Call := trace.foldl Mark.track []

section
variable {origin s next : Session} {trace earlier later : List Mark} {mark : Mark} {input : Input} {out : List Envelope}

theorem track_sent (calls : List Call) (out : List Envelope) : (out.map Mark.sent).foldl Mark.track calls = calls := by
  induction out with
  | nil => rfl
  | cons e rest ih => exact ih

theorem track_marks (taken : s.step input = some (next, out)) :
    (marks s next out input).foldl Mark.track s.call.toList = next.call.toList := by
  cases input with
  | frame raw =>
    have idle : s.call = none := by
      cases step_sound taken <;> assumption
    have heard : (marks s next out (.frame raw)).foldl Mark.track [] =
        (out.map Mark.sent ++ next.call.toList.map Mark.began).foldl Mark.track [] := rfl
    rw [idle, Option.toList_none, heard, List.foldl_append, track_sent]
    cases next.call <;> rfl
  | answer answer =>
    have settled : next.call = none := by
      cases step_sound taken <;> rfl
    have tail : s.call.toList.tail = [] := by cases s.call <;> rfl
    rw [marks, List.foldl_cons, Mark.track, tail, track_sent, settled]
    rfl
  | drop =>
    cases step_sound taken with
    | dropped busy =>
      rw [busy]
      rfl

theorem Path.outstanding (path : Path origin trace s) (idle : origin.call = none) :
    Session.outstanding trace = s.call.toList := by
  induction path with
  | nil => rw [idle]; rfl
  | step prior taken ih => rw [Session.outstanding, List.foldl_append, ← track_marks taken, ← ih, Session.outstanding]

theorem Path.stays (path : Path origin [] s) : s = origin := by
  generalize empty : ([] : List Mark) = trace at path
  cases path with
  | nil => rfl
  | @step trace before input next out prior taken =>
    obtain ⟨head, rest, shape, _⟩ := marks_opens before s out input
    rw [shape] at empty
    simp at empty

theorem Path.begins_with_frame (path : Path origin (mark :: later) s) (idle : origin.call = none) :
    ∃ raw, mark = .heard origin.state raw := by
  have whole : mark :: later = [] ++ mark :: later := rfl
  obtain ⟨middle, input, next, out, rest, before, taken, shape, _⟩ := path.split whole (path.first_opens rfl)
  obtain rfl := before.stays
  cases input with
  | frame raw => exact ⟨raw, (List.cons.inj shape).1⟩
  | answer answer =>
    cases step_sound taken with
    | unplanned asked | actionless asked | proposed asked | finished asked => cases idle.symm.trans asked
  | drop =>
    cases step_sound taken with
    | dropped busy => cases idle.symm.trans busy

theorem Path.requests (path : Path origin trace s) (clear : Clear origin) (free : origin.pending = none)
    {state : State} {raw : String} (cut : trace = earlier ++ .heard state raw :: later)
    (plain : ∀ mark ∈ earlier, mark.proposal = none) :
    state = .awaitingInput ∧ ∀ text, UserMessage.userText raw = .ok text →
      ∃ rest, later = .sent (.bot Texts.thinking) :: .began (.plan (Text.trim text)) :: rest := by
  obtain ⟨middle, input, next, out, rest, before, taken, shape, _⟩ := path.split cut rfl
  obtain ⟨⟨settled, shown, _⟩, _⟩ := before.accounted clear free
  have free : middle.pending = none := by
    rw [proposals_plain plain] at shown
    have empty := (List.append_eq_nil_iff.mp shown.symm).2
    cases pending : middle.pending with
    | none => rfl
    | some action => simp [pending] at empty
  cases input with
  | answer answer => cases shape
  | drop => cases shape
  | frame heard =>
    obtain ⟨first, tail⟩ := List.cons.inj shape
    cases first
    refine ⟨state_of_pending_none free, fun text accepted => ?_⟩
    cases step_sound taken with
    | rejected idle refused => cases accepted.symm.trans refused
    | requested idle heard free =>
      cases accepted.symm.trans heard
      exact ⟨rest, tail⟩
    | approved idle heard shown word => cases free.symm.trans shown
    | cancelled idle heard shown word => cases free.symm.trans shown
    | unclear idle heard shown word => cases free.symm.trans shown

theorem Path.after_drop (path : Path origin trace s) (clear : Clear origin) (cut : trace = earlier ++ .gaveUp :: later) :
    ∃ next : Session, next.call = none ∧ next.pending = none ∧ Path next later s := by
  obtain ⟨middle, input, next, out, rest, before, taken, shape, after⟩ := path.split cut rfl
  cases input with
  | frame raw => cases shape
  | answer answer => cases shape
  | drop =>
    obtain rfl : later = rest := (List.cons.inj shape).2
    cases step_sound taken with
    | dropped busy => exact ⟨middle.giveUp, rfl, before.clear clear (by simp [busy]), after⟩

end

section
variable {descriptors : Except BackendError (List Json)} {trace : List Mark} {s : Session}

-- At any time a session may lose the frame it is at, or be left altogether. Each confirmed action is called
-- once all the same, and after a loss only what is shown from then on can be called.
theorem interruption_safe (run : Runs descriptors trace s) :
    (∀ call, s.call = some call → s.pending = none) ∧
    outstanding trace = s.call.toList ∧
    toolCalls trace = confirmed (proposals trace) ∧
    (∀ earlier later, trace = earlier ++ .gaveUp :: later →
      (∀ mark, later.head? = some mark → ∃ raw, mark = .heard .awaitingInput raw) ∧
      (∃ (rounds : List (List Mark)) (part : List Mark), later = rounds.flatten ++ part ∧
        (∀ round ∈ rounds, Round round) ∧ Unfinished s.call part) ∧
      toolCalls later = confirmed (proposals later) ∧
      ∀ front state raw back, later = front ++ .heard state raw :: back → (∀ mark ∈ front, mark.proposal = none) →
        state = .awaitingInput ∧ ∀ text, UserMessage.userText raw = .ok text →
          ∃ rest, back = .sent (.bot Texts.thinking) :: .began (.plan (Text.trim text)) :: rest) ∧
    (∀ (floor : Floor) (i : Nat) (seat : Seat), floor.seats[i]? = some seat → ∀ events,
      Floor.Vacant i seat.outbox ((floor.abandon i).run events) ∧
        ∀ act ∈ Floor.own i ((floor.abandon i).journal events), act.quiet = true) := by
  obtain ⟨raws, path, rfl, walked, rfl⟩ := run.parts
  have clear : Clear ⟨(Catalog.list raws).tools, none, none⟩ := fun _ => rfl
  have counted : outstanding (.sent (.bot Texts.greeting) :: path) = outstanding path := rfl
  have shown : proposals (.sent (.bot Texts.greeting) :: path) = proposals path := rfl
  refine ⟨?_, ?_, ?_, ?_, ?_⟩
  · exact fun call busy => walked.clear clear (by simp [busy])
  · rw [counted]
    exact walked.outstanding rfl
  · rw [shown]
    exact (walked.accounted clear rfl).called
  · intro earlier later cut
    cases earlier with
    | nil => cases (List.cons.inj cut).1
    | cons head front =>
      obtain ⟨next, idle, free, after⟩ := walked.after_drop clear (List.cons.inj cut).2
      have clearNext : Clear next := fun _ => free
      refine ⟨?_, after.rounds idle, (after.accounted clearNext free).called, ?_⟩
      · intro mark first
        cases later with
        | nil => cases first
        | cons one rest =>
          obtain ⟨raw, rfl⟩ := after.begins_with_frame idle
          cases first
          exact ⟨raw, by rw [state_of_pending_none free]⟩
      · exact fun front state raw back cut plain => after.requests clearNext free cut plain
  · exact fun floor i seat present events => (Floor.vacant_abandon present).run events

end

namespace CutShort

def later : List Mark :=
  [.heard .awaitingInput SecondYes.yes, .sent (.bot Texts.thinking), .began (.plan "yes")]

def trace : List Mark :=
  .sent (.bot Texts.greeting) :: (SecondYes.asked ++ .sent SecondYes.shown ::
    [.heard .awaitingConfirmation SecondYes.yes, .sent (.bot Texts.executing), .began (.tool SecondYes.action)]) ++
    .gaveUp :: later

theorem runs : Runs (.ok []) trace ⟨[], none, some (.plan "yes")⟩ := by
  have played : (⟨[], none, none⟩ : Session).play
      [.frame "[\"user\",\"go\"]", .answer (.reply (.ok SecondYes.plan)), .frame SecondYes.yes, .drop,
        .frame SecondYes.yes] = some (trace.tail, ⟨[], none, some (.plan "yes")⟩) := by
    cbv
  exact ⟨_, _, _, rfl, play_path played, rfl⟩

end CutShort

theorem interruption_safe_cut_short :
    Runs (.ok []) CutShort.trace ⟨[], none, some (.plan "yes")⟩ ∧
      outstanding CutShort.trace = [.plan "yes"] ∧
      toolCalls CutShort.trace = confirmed (proposals CutShort.trace) ∧
      toolCalls CutShort.later = confirmed (proposals CutShort.later) := by
  obtain ⟨_, counted, called, after, _⟩ := interruption_safe CutShort.runs
  exact ⟨CutShort.runs, counted, called, (after _ _ rfl).2.2.1⟩

end Session
end ToolGateway
