import ToolGateway.Proofs.Planner.Answer
import ToolGateway.Proofs.Remote.Execution
import ToolGateway.Proofs.Session.Provenance

namespace ToolGateway

def Json.Carries (place name : String) (action : Action) (document : Json) : Prop :=
  ∃ inner, document.get? place = some inner ∧ inner.get? name = some (.text action.tool) ∧
    inner.get? "arguments" = some (.object action.arguments)

section
variable {action : Action} {output : String}

theorem Action.canonical (action : Action) (named : (Plan.parse output).action? = some action) :
    (Json.object action.arguments).Canonical := by
  obtain ⟨tool, _, rfl⟩ := Option.map_eq_some_iff.mp named
  exact Plan.arguments_assured Json.assured_orderly output

end

namespace Remote

open Session (Mark Runs)

section
variable {descriptors : Except BackendError (List Json)} {trace : List Mark} {s : Session} {action : Action}

end

namespace Quoted

def output : String := "\x7b\"tool\":\"t\",\"arguments\":\x7b\"\\\"\":[\"\\n\\\\\",\"\\ud83d\\ude00\",-1]\x7d\x7d"
def action : Action := ⟨"t", [("\"", .array [.text "\n\\", .text "😀", .whole (-1)])]⟩
def request : String := "[\"user\",\"go\"]"

def trace : List Mark :=
  [.sent (.bot Session.Texts.greeting), .heard .awaitingInput request, .sent (.bot Session.Texts.thinking),
    .began (.plan (Text.trim "go")), .ended (.reply (.ok output)),
    .sent (.confirm ((Plan.parse output).confirmText action) action.payload)]

theorem named : (Plan.parse output).action? = some action := by
  have object : Plan.extract output.toList = output.toList := by decide +kernel
  have read : Json.parseChars? output.toList =
      some (Json.record [("tool", .text "t"), ("arguments", .object action.arguments)]) := by
    cbv
  rw [Plan.parse, object, read]
  cbv

theorem runs : Runs (.ok []) trace ⟨[], some action, none⟩ := by
  have heard : UserMessage.userText request = .ok "go" := by cbv
  have asked : (⟨[], none, none⟩ : Session).step (.frame request) = _ :=
    Session.step_complete (.requested rfl heard rfl)
  have planned : Planner.planOf (.ok output) = .ok (Plan.parse output) := rfl
  have shown : (⟨[], none, some (.plan (Text.trim "go"))⟩ : Session).step (.answer (.reply (.ok output))) = _ :=
    Session.step_complete (.proposed rfl planned named)
  exact ⟨_, _, _, rfl, .step (.step .nil asked) shown, rfl⟩

end Quoted

end Remote
end ToolGateway
