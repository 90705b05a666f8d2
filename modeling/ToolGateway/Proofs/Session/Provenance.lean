import Mathlib
import ToolGateway.Proofs.Session.Approval

namespace ToolGateway.Session

def Mark.suggestion : Mark → Option Action
  | .ended (.reply reply) => (Planner.planOf reply).toOption.bind Plan.action?
  | _ => none

def suggestions (trace : List Mark) : List Action := trace.filterMap Mark.suggestion

def shown (trace : List Mark) : List Action := trace.filterMap Mark.proposal

def Listed (catalog : List Tool) (action : Action) : Prop := ∃ tool ∈ catalog, tool.name = action.tool

section
variable {origin s next : Session} {trace : List Mark} {input : Input} {out : List Envelope}

theorem suggestions_append (one two : List Mark) : suggestions (one ++ two) = suggestions one ++ suggestions two :=
  List.filterMap_append

theorem shown_append (one two : List Mark) : shown (one ++ two) = shown one ++ shown two := List.filterMap_append

theorem shown_proposals (trace : List Mark) : (proposals trace).map Prod.fst = shown trace := by
  induction trace with
  | nil => rfl
  | cons mark rest ih => cases found : mark.proposal <;> simp [proposals, shown, found] <;> exact ih

theorem shown_plain (plain : ∀ mark ∈ trace, mark.proposal = none) : shown trace = [] :=
  List.filterMap_eq_nil_iff.mpr plain

theorem suggestions_sent (out : List Envelope) : suggestions (out.map .sent) = [] := by
  induction out with
  | nil => rfl
  | cons e rest ih => exact ih

theorem suggestions_frame (raw : String) : suggestions (marks s next out (.frame raw)) = [] := by
  have begun : suggestions (next.call.toList.map .began) = [] := by cases next.call <;> rfl
  have heard : suggestions (marks s next out (.frame raw)) =
      suggestions (out.map .sent ++ next.call.toList.map .began) := rfl
  rw [heard, suggestions_append, suggestions_sent, begun]
  rfl

theorem suggestions_answer (answer : Answer) :
    suggestions (marks s next out (.answer answer)) = (Mark.ended answer).suggestion.toList := by
  rw [marks, suggestions, ← List.singleton_append, List.filterMap_append]
  have sent := suggestions_sent out
  rw [suggestions] at sent
  rw [sent, List.append_nil]
  cases found : (Mark.ended answer).suggestion <;> simp [found]

theorem suggestion_of_error {reply : LlmReply} {e : LlmError} (failed : Planner.planOf reply = .error e) :
    (Mark.ended (.reply reply)).suggestion = none := by
  simp [Mark.suggestion, failed, Except.toOption]

theorem suggestion_of_plan {reply : LlmReply} {plan : Plan} (made : Planner.planOf reply = .ok plan) :
    (Mark.ended (.reply reply)).suggestion = plan.action? := by
  simp [Mark.suggestion, made, Except.toOption]

-- A step shows an action exactly when it takes an answer whose plan names one.
theorem step_suggested (taken : s.step input = some (next, out)) :
    shown (marks s next out input) = suggestions (marks s next out input) := by
  have quiet {e : Envelope} (only : out = [e]) (bare : e.proposal? = none)
      (nothing : suggestions (marks s next out input) = []) :
      shown (marks s next out input) = suggestions (marks s next out input) := by
    rw [nothing]
    refine shown_plain (marks_plain fun one present => ?_)
    rw [only] at present
    rw [List.mem_singleton.mp present]
    exact bare
  cases step_sound taken with
  | rejected idle refused => exact quiet rfl (rejection_proposal _) (suggestions_frame _)
  | requested | approved | cancelled | unclear => exact quiet rfl rfl (suggestions_frame _)
  | unplanned asked failed =>
    exact quiet rfl rfl (by rw [suggestions_answer, suggestion_of_error failed]; rfl)
  | actionless asked planned bare =>
    exact quiet rfl rfl (by rw [suggestions_answer, suggestion_of_plan planned, bare]; rfl)
  | @proposed _ plan action _ _ asked planned found =>
    have last : (Mark.sent (.confirm (plan.confirmText action) action.payload)).proposal = some action :=
      Envelope.proposal?_confirm (plan.confirmText action) action
    rw [suggestions_answer, suggestion_of_plan planned, found]
    rw [marks, shown, List.map_singleton, List.filterMap_cons_none rfl, List.filterMap_cons_some last]
    rfl
  | finished called => exact quiet rfl (executed_proposal _) (by rw [suggestions_answer]; rfl)
  | dropped busy => rfl

theorem Path.suggested (path : Path origin trace s) : shown trace = suggestions trace := by
  induction path with
  | nil => rfl
  | step prior taken ih => rw [shown_append, suggestions_append, ih, step_suggested taken]

-- The plan and the envelope that brought up an action, with no other action shown since.
def Origin (trace : List Mark) (action : Action) : Prop :=
  ∃ earlier output later, (Plan.parse output).action? = some action ∧
    trace = earlier ++ .ended (.reply (.ok output)) ::
      .sent (.confirm ((Plan.parse output).confirmText action) action.payload) :: later ∧
    ∀ mark ∈ later, mark.proposal = none

theorem Origin.append {more : List Mark} {action : Action} (brought : Origin trace action)
    (plain : ∀ mark ∈ more, mark.proposal = none) : Origin (trace ++ more) action := by
  obtain ⟨earlier, output, later, named, rfl, quiet⟩ := brought
  refine ⟨earlier, output, later ++ more, named, by simp, fun mark present => ?_⟩
  rcases List.mem_append.mp present with old | added
  · exact quiet mark old
  · exact plain mark added

theorem calls_shown (called : toolCalls trace = confirmed (proposals trace)) :
    (toolCalls trace).Sublist (shown trace) := by
  rw [called, confirmed, ← shown_proposals]
  exact List.filter_sublist.map Prod.fst

end

section
variable {descriptors : Except BackendError (List Json)} {trace : List Mark} {s : Session}

-- Nothing is shown or called but what the plans of the answers name. Where these name tools of the catalog
-- only, no other tool is shown, let alone called.
theorem only_suggested_tools (run : Runs descriptors trace s) :
    (∃ raws, descriptors = .ok raws ∧ s.catalog = (Catalog.list raws).tools) ∧
    shown trace = suggestions trace ∧
    (toolCalls trace).Sublist (shown trace) ∧
    ((∀ action ∈ suggestions trace, Listed s.catalog action) →
      (∀ action ∈ shown trace, Listed s.catalog action) ∧ ∀ action ∈ toolCalls trace, Listed s.catalog action) := by
  obtain ⟨raws, path, rfl, walked, rfl⟩ := run.parts
  have shows : shown (.sent (.bot Texts.greeting) :: path) = shown path := rfl
  have names : suggestions (.sent (.bot Texts.greeting) :: path) = suggestions path := rfl
  have calls : (toolCalls path).Sublist (shown path) := calls_shown (walked.accounted (fun _ => rfl) rfl).called
  rw [shows, names, walked.suggested]
  rw [walked.suggested] at calls
  refine ⟨⟨raws, rfl, walked.catalog⟩, rfl, calls, fun listed => ⟨listed, fun action called => ?_⟩⟩
  exact listed action (calls.subset called)

end

namespace Spelling

def ping : Json := .object [("name", .text "ping")]
def catalog : List Tool := [⟨"ping", "", .object []⟩]
def plan (name : String) : String := "\x7b\"tool\":\"" ++ name ++ "\"\x7d"
def action (name : String) : Action := ⟨name, []⟩

def trace (name : String) : List Mark :=
  [.sent (.bot Texts.greeting), .heard .awaitingInput "[\"user\",\"go\"]", .sent (.bot Texts.thinking),
    .began (.plan "go"), .ended (.reply (.ok (plan name))),
    .sent (.confirm ((Plan.parse (plan name)).confirmText (action name)) (action name).payload),
    .heard .awaitingConfirmation SecondYes.yes, .sent (.bot Texts.executing), .began (.tool (action name))]

def inputs (name : String) : List Input :=
  [.frame "[\"user\",\"go\"]", .answer (.reply (.ok (plan name))), .frame SecondYes.yes]

theorem runs {name : String} (played : (⟨catalog, none, none⟩ : Session).play (inputs name) =
    some ((trace name).tail, ⟨catalog, none, some (.tool (action name))⟩)) :
    Runs (.ok [ping]) (trace name) ⟨catalog, none, some (.tool (action name))⟩ := by
  have listed : (Catalog.list [ping]).tools = catalog := by cbv
  exact ⟨_, _, _, rfl, listed ▸ play_path played, rfl⟩

theorem runs_ping : Runs (.ok [ping]) (trace "ping") ⟨catalog, none, some (.tool (action "ping"))⟩ := runs (by cbv)

theorem runs_pong : Runs (.ok [ping]) (trace "pong") ⟨catalog, none, some (.tool (action "pong"))⟩ := runs (by cbv)

end Spelling

theorem only_suggested_tools_ping :
    (∀ action ∈ suggestions (Spelling.trace "ping"), Listed Spelling.catalog action) ∧
      toolCalls (Spelling.trace "ping") = [Spelling.action "ping"] ∧
      ∀ action ∈ toolCalls (Spelling.trace "ping"), Listed Spelling.catalog action := by
  have named : suggestions (Spelling.trace "ping") = [Spelling.action "ping"] := by cbv
  have listed : ∀ action ∈ suggestions (Spelling.trace "ping"), Listed Spelling.catalog action := by
    rw [named]
    exact fun action present => ⟨_, List.mem_singleton_self _, by rw [List.mem_singleton.mp present]; rfl⟩
  obtain ⟨_, _, _, safe⟩ := only_suggested_tools Spelling.runs_ping
  exact ⟨listed, by cbv, (safe listed).2⟩

-- No name is compared with the catalog: one that the model invents is shown, and called once confirmed.
theorem invented_tool_called : ¬ ∀ descriptors trace s, Runs descriptors trace s →
    (∀ action ∈ shown trace, Listed s.catalog action) ∧ ∀ action ∈ toolCalls trace, Listed s.catalog action := by
  intro every
  have called : toolCalls (Spelling.trace "pong") = [Spelling.action "pong"] := by cbv
  obtain ⟨tool, present, name⟩ := (every _ _ _ Spelling.runs_pong).2 (Spelling.action "pong") (by simp [called])
  rw [List.mem_singleton.mp present] at name
  exact absurd name (by decide)

end ToolGateway.Session
