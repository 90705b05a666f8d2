import ToolGateway.Proofs.Json.Injective
import ToolGateway.Proofs.Planner.Answer
import ToolGateway.Proofs.Text.Bytes
import ToolGateway.Proofs.Text.Occurrence

namespace ToolGateway.Plan

def toolHeading : String := "\n\nTool: "

def Hides (tool other : String) : Prop := ∃ before, tool = before ++ toolHeading ++ other

section
variable {plan other : Plan} {a b : Action} {output : String}

def upToTool (plan : Plan) (a : Action) : String :=
  plan.summary ++ "\n\n" ++ plan.prompt ++ toolHeading ++ a.tool

def argumentLine (a : Action) : String := "Args: " ++ Json.compact (.object a.arguments)

theorem confirmText_split (plan : Plan) (a : Action) : (plan.confirmText a).toList =
    (upToTool plan a).toList ++ '\n' :: (argumentLine a).toList ++
      "\n\nType 'yes' to proceed or 'no' to cancel.".toList := by
  have line : "\nArgs: ".toList = '\n' :: "Args: ".toList := rfl
  simp only [confirmText, upToTool, argumentLine, toolHeading, String.toList_append, line, List.append_assoc,
    List.cons_append]

theorem argumentLine_single (a : Action) : '\n' ∉ (argumentLine a).toList := by
  intro broken
  simp only [argumentLine, Json.compact, String.toList_append, String.toList_ofList] at broken
  rcases List.mem_append.mp broken with front | value
  · exact absurd front (by decide)
  · exact absurd (Json.render_printed _ '\n' value) (by decide)

-- The last line break but the closing ones stands before the arguments.
theorem confirmText_parts (same : plan.confirmText a = other.confirmText b) :
    upToTool plan a = upToTool other b ∧ (Json.object a.arguments).render = (Json.object b.arguments).render := by
  have texts := congrArg String.toList same
  rw [confirmText_split, confirmText_split] at texts
  have lines := List.append_cancel_right texts
  have cut : Text.cutLast '\n' ((upToTool plan a).toList ++ '\n' :: (argumentLine a).toList) =
      some ((upToTool plan a).toList, (argumentLine a).toList) := Text.cutLast_single (argumentLine_single a)
  rw [lines, Text.cutLast_single (argumentLine_single b)] at cut
  obtain ⟨front, line⟩ := Prod.mk.inj (Option.some.inj cut)
  simp only [argumentLine, Json.compact, String.toList_append, String.toList_ofList] at line
  exact ⟨(String.toList_inj.mp front).symm, (List.append_cancel_left line).symm⟩

theorem upToTool_tool (same : upToTool plan a = upToTool other b) :
    a.tool = b.tool ∨ Hides a.tool b.tool ∨ Hides b.tool a.tool := by
  have heading : toolHeading.toList = "\n\nTool:".toList ++ [' '] := rfl
  have once : ' ' ∉ "\n\nTool:".toList := by decide
  have hidden {tool name : String} {before : List Char}
      (ends : tool.toList = before ++ ("\n\nTool:".toList ++ ' ' :: name.toList)) : Hides tool name := by
    refine ⟨String.ofList before, String.toList_inj.mp ?_⟩
    simp [ends, heading]
  have parted (plan : Plan) (a : Action) : (upToTool plan a).toList =
      (plan.summary ++ "\n\n" ++ plan.prompt).toList ++ ("\n\nTool:".toList ++ ' ' :: a.tool.toList) := by
    simp only [upToTool, String.toList_append, heading, List.append_assoc, List.singleton_append]
  have texts := congrArg String.toList same
  rw [parted, parted] at texts
  rcases Text.behind_separator once texts with equal | ⟨before, ends⟩ | ⟨before, ends⟩
  · exact .inl (String.toList_inj.mp equal)
  · exact .inr (.inl (hidden ends))
  · exact .inr (.inr (hidden ends))

-- The exception is real: whatever name hides another, a longer question shows the same text for the other.
theorem hidden_shown (plan : Plan) (a : Action) (before tool : String) (ends : a.tool = before ++ toolHeading ++ tool) :
    plan.confirmText a = {plan with prompt := plan.prompt ++ toolHeading ++ before}.confirmText {a with tool := tool} := by
  simp only [confirmText, ends, toolHeading, String.append_assoc]

theorem action_doubles (yielded : (parse output).action? = some a) : Json.Doubles (.object a.arguments) := by
  obtain ⟨tool, _, rfl⟩ := Option.map_eq_some_iff.mp yielded
  exact arguments_assured Json.assured_fitting output

end

-- Two answers whose confirmations read the same ask for the same arguments, and for one tool unless a name hides the
-- other.
theorem confirmation_told (one two : String) (a b : Action) (first : (parse one).action? = some a)
    (second : (parse two).action? = some b) (same : (parse one).confirmText a = (parse two).confirmText b) :
    a.arguments = b.arguments ∧ (a.tool = b.tool ∨ Hides a.tool b.tool ∨ Hides b.tool a.tool) := by
  obtain ⟨front, rendered⟩ := confirmText_parts same
  have arguments := Json.render_injective (action_doubles first) (action_doubles second) rendered
  exact ⟨Json.object.inj arguments, upToTool_tool front⟩

theorem confirmation_told_parted :
    let one := parse "\x7b\"tool\":\"t\",\"arguments\":\x7b\"n\":1.50\x7d,\"summary\":\"a\\n\\nb\"\x7d"
    let two := parse
      "\x7b\"tool\":\" t \",\"args\":\x7b\"n\":15e-1\x7d,\"summary\":\"a\",\"confirmation\":\"b\\n\\n\"\x7d"
    ∃ a b, one.action? = some a ∧ two.action? = some b ∧ one.confirmText a = two.confirmText b ∧ one.summary ≠ two.summary ∧
      a.arguments = b.arguments ∧ (a.tool = b.tool ∨ Hides a.tool b.tool ∨ Hides b.tool a.tool) := by
  intro one two
  have yields : one.action?.isSome = true ∧ two.action?.isSome = true := by decide +kernel
  have texts : one.action?.map one.confirmText = two.action?.map two.confirmText := by decide +kernel
  obtain ⟨a, first⟩ := Option.isSome_iff_exists.mp yields.1
  obtain ⟨b, second⟩ := Option.isSome_iff_exists.mp yields.2
  rw [first, second] at texts
  have same := Option.some.inj texts
  exact ⟨a, b, first, second, same, by decide +kernel, confirmation_told _ _ a b first second same⟩

-- A name that holds the heading, and a question that does.
theorem confirmation_ambiguous : ¬ ∀ (one two : String) (a b : Action), (parse one).action? = some a →
    (parse two).action? = some b → (parse one).confirmText a = (parse two).confirmText b →
    a.tool = b.tool ∧ a.arguments = b.arguments := by
  intro claimed
  have one : parse "\x7b\"tool\":\"x\\n\\nTool: y\"\x7d" = ⟨some "x\n\nTool: y", [], "", ""⟩ := by cbv
  have two : parse "\x7b\"tool\":\"y\",\"confirmation_prompt\":\"\\n\\nTool: x\"\x7d" =
      ⟨some "y", [], "", "\n\nTool: x"⟩ := by cbv
  have shown := hidden_shown ⟨some "x\n\nTool: y", [], "", ""⟩ ⟨"x\n\nTool: y", []⟩ "x" "y" (by decide)
  have told := claimed _ _ ⟨"x\n\nTool: y", []⟩ ⟨"y", []⟩ (by rw [one]; rfl) (by rw [two]; rfl)
    (by rw [one, two, shown]; rfl)
  exact absurd told.1 (by decide)

end ToolGateway.Plan
