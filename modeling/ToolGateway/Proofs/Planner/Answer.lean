import ToolGateway.Plan
import ToolGateway.Proofs.Json.Access
import ToolGateway.Proofs.Json.Edges
import ToolGateway.Proofs.Json.RoundTrip

namespace ToolGateway

-- The content of a value of the right form, or what stands for it when there is no such value.
def Taken {α : Type} (given : Json → Prop) (form : α → Json) (otherwise content : α) : Prop :=
  given (form content) ∨ (∀ x, ¬ given (form x)) ∧ otherwise = content

namespace Plan

structure Reads (members : Json.Members) (plan : Plan) : Prop where
  tool : ∀ name, plan.tool = some name ↔
    name ≠ "" ∧ ∃ given, members.find? "tool" = some (.text given) ∧ name = Text.trim given
  arguments : Taken (members.Given "arguments" "args") .object [] plan.arguments
  summary : Taken (fun v => members.find? "summary" = some v) .text "" plan.summary
  prompt : Taken (members.Given "confirmation_prompt" "confirmation") .text "" plan.prompt

section
variable {members : Json.Members} {value : Option Json} {given : Json → Prop} {pattern s : List Char}
  {output : String} {plan : Plan} {name : String}

theorem toolOf_exact :
    toolOf members = some name ↔
      name ≠ "" ∧ ∃ given, members.find? "tool" = some (.text given) ∧ name = Text.trim given := by
  rw [toolOf, Option.bind_eq_some_iff]
  constructor
  · rintro ⟨given, read, kept⟩
    obtain ⟨v, found, text⟩ := Option.bind_eq_some_iff.mp read
    obtain rfl := text?_exact.mp text
    dsimp only at kept
    split at kept
    · cases kept
    · cases kept
      exact ⟨‹_›, given, found, rfl⟩
  · rintro ⟨named, given, found, rfl⟩
    refine ⟨given, ?_, if_neg named⟩
    rw [found]
    rfl

theorem taken_text (is : ∀ v, value = some v ↔ given v) : Taken given .text "" (textOf value) := by
  have reads : ∀ t, value.bind Json.text? = some t ↔ given (.text t) := by
    intro t
    simp only [Option.bind_eq_some_iff, text?_exact, exists_eq_right, is]
  exact (getD_exact reads).mp rfl

theorem taken_arguments : Taken (members.Given "arguments" "args") .object [] (argumentsOf members) := by
  have reads : ∀ arguments, ((members.find? "arguments").or (members.find? "args")).bind Json.object? = some arguments ↔
      members.Given "arguments" "args" (.object arguments) := by
    intro arguments
    simp only [Option.bind_eq_some_iff, object?_exact, exists_eq_right, given_exact]
  exact (getD_exact reads).mp rfl

theorem reads_ofMembers (members : Json.Members) : Reads members (ofMembers members) where
  tool _ := toolOf_exact
  arguments := taken_arguments
  summary := taken_text fun _ => Iff.rfl
  prompt := taken_text fun _ => given_exact

theorem argumentsOf_assured {p : Json → Prop} (assured : Json.Assured p)
    (every : ∀ u ∈ (Json.object members).parts, p u) : ∀ u ∈ (Json.object (argumentsOf members)).parts, p u := by
  have inside := (Json.every_object.mp every).2
  have given : Taken (members.Given "arguments" "args") .object [] (argumentsOf members) := taken_arguments
  generalize argumentsOf members = arguments at given ⊢
  rcases given with held | ⟨_, rfl⟩
  · cases held with
    | named found => exact inside _ (Json.mem_of_find? found)
    | renamed _ found => exact inside _ (Json.mem_of_find? found)
  · exact Json.every_object.mpr ⟨assured.object .nil, fun _ absent => by cases absent⟩

theorem arguments_assured {p : Json → Prop} (assured : Json.Assured p) (output : String) :
    ∀ u ∈ (Json.object (parse output).arguments).parts, p u := by
  unfold parse
  split
  · rename_i members read
    obtain ⟨v, parsed, form⟩ := Option.bind_eq_some_iff.mp read
    obtain rfl := object?_exact.mp form
    obtain ⟨t, _, value⟩ := Option.bind_eq_some_iff.mp parsed
    exact argumentsOf_assured assured (Json.value?_every assured value).1
  · exact Json.every_object.mpr ⟨assured.object .nil, fun _ absent => by cases absent⟩

theorem cut_absent (absent : ¬ pattern <:+: s) : Text.cut pattern s = none := by
  cases found : Text.cut pattern s with
  | none => rfl
  | some parts =>
    apply absurd _ absent
    exact ⟨parts.1, parts.2, (Text.cut_eq found).symm⟩

theorem braced_object (inner : List Char) : braced ('\x7b' :: (inner ++ ['\x7d'])) = '\x7b' :: (inner ++ ['\x7d']) := by
  simp [braced]

-- Without a fence the outermost braces are looked for, and these are the ends of the object.
theorem extract_object (bare : ¬ openFence <:+: s)
    (read : Json.parseChars? (Text.trimChars s) = some (.object members)) : extract s = Text.trimChars s := by
  have inside : ¬ openFence <:+: Text.trimChars s := by
    intro fenced
    exact bare (fenced.trans (Text.trimChars_infix s))
  obtain ⟨inner, whole⟩ := Json.object_bounds read (Text.trimmed_trimChars s)
  simp only [extract, cut_absent inside]
  rw [whole, braced_object]

theorem parse_object (bare : ¬ openFence <:+: output.toList)
    (read : Json.parse? (Text.trim output) = some (.object members)) : parse output = ofMembers members := by
  rw [Json.parse?, Text.trim, String.toList_ofList] at read
  rw [parse, extract_object bare read, read]
  rfl

theorem ofMembers_wire (named : ∀ name, plan.tool = some name → name ≠ "" ∧ Text.trim name = name) :
    ofMembers (Json.Members.ofList plan.members) = plan := by
  obtain ⟨tool, arguments, summary, prompt⟩ := plan
  cases tool with
  | none =>
    simp [ofMembers, toolOf, argumentsOf, textOf, Plan.members, Json.Members.ofList, Json.find?_insert,
      Json.Members.find?, Json.text?, Json.object?]
  | some name =>
    obtain ⟨nonempty, trimmed⟩ := named name rfl
    simp [ofMembers, toolOf, argumentsOf, textOf, Plan.members, Json.Members.ofList, Json.find?_insert,
      Json.Members.find?, Json.text?, Json.object?, nonempty, trimmed]

theorem trim_wire (plan : Plan) : Text.trim plan.wire = plan.wire := by
  have trimmed : Text.Trimmed (Json.object plan.members).render := by
    rw [Json.render]
    constructor
    · intro c head
      cases head
      decide
    · intro c last
      rw [← List.cons_append, List.getLast?_concat] at last
      cases last
      decide
  rw [wire, Json.compact, Text.trim, String.toList_ofList, trimmed.fixed]

theorem portable_members (arguments : Json.Portable (Json.maxDepth - 1) (.object plan.arguments)) :
    ∀ m ∈ plan.members, Json.Portable (Json.maxDepth - 1) m.2 := by
  have text : ∀ s, Json.Portable (Json.maxDepth - 1) (.text s) := fun s => Json.portable_text s _
  have null : Json.Portable (Json.maxDepth - 1) .null :=
    ⟨Json.canonical_scalar rfl trivial, by simp [Json.Integral, Json.parts, Json.isReal], by decide⟩
  intro m present
  simp only [Plan.members, List.mem_cons, List.not_mem_nil, or_false] at present
  rcases present with rfl | rfl | rfl | rfl
  · cases plan.tool with
    | none => exact null
    | some name => exact text name
  · exact arguments
  · exact text plan.summary
  · exact text plan.prompt

end

-- Where there is no fence, no compliant answer is lost, and a written plan is read back.
theorem compliant_answer_read (output : String) (members : Json.Members) (plan : Plan) :
    (¬ openFence <:+: output.toList → Json.parse? (Text.trim output) = some (.object members) →
      Reads members (parse output)) ∧
    (¬ openFence <:+: plan.wire.toList → (∀ name, plan.tool = some name → name ≠ "" ∧ Text.trim name = name) →
      Json.Portable 126 (.object plan.arguments) → parse plan.wire = plan) := by
  constructor
  · intro bare read
    rw [parse_object bare read]
    exact reads_ofMembers members
  · intro bare named portable
    have read : Json.parse? (Text.trim plan.wire) = some (Json.record plan.members) := by
      rw [trim_wire]
      exact Json.parse?_members (portable_members portable)
    rw [parse_object bare read, ofMembers_wire named]

def boxed : Plan := ⟨some "note", [("body", .text "\x7d```\"\x7b\n")], "…", ""⟩

def loose : String := "\n\x7b\"tool\":\" t \", \"args\":[]\x7d"

theorem compliant_answer_read_boxed :
    ¬ openFence <:+: boxed.wire.toList ∧ parse boxed.wire = boxed ∧
      Reads [("args", .array []), ("tool", .text " t ")] (parse loose) := by
  have bare : ¬ openFence <:+: boxed.wire.toList := by decide +kernel
  have named : ∀ name, boxed.tool = some name → name ≠ "" ∧ Text.trim name = name := by
    intro name given
    cases given
    constructor
    all_goals decide +kernel
  have portable : Json.Portable 126 (Json.record [("body", .text "\x7d```\"\x7b\n")]) := by
    apply Json.portable_record
    intro m present
    obtain rfl := List.mem_singleton.mp present
    exact Json.portable_text _ _
  obtain ⟨reads, back⟩ := compliant_answer_read loose [("args", .array []), ("tool", .text " t ")] boxed
  refine ⟨bare, back bare named portable, ?_⟩
  apply reads
  · decide +kernel
  · cbv

-- An opening fence inside a string of the object: the object is looked for after it, and the answer is lost.
theorem fenced_answer_lost :
    ¬ ∀ output members, Json.parse? (Text.trim output) = some (.object members) → Reads members (parse output) := by
  intro always
  have reads := always "\x7b\"tool\":\"t\",\"summary\":\"```json\"\x7d"
    [("summary", .text "```json"), ("tool", .text "t")] (by cbv)
  have proposed := (reads.tool "t").mpr ⟨by decide, "t", by cbv, by cbv⟩
  have lost : (parse "\x7b\"tool\":\"t\",\"summary\":\"```json\"\x7d").tool = none := by cbv
  rw [lost] at proposed
  cases proposed

end Plan
end ToolGateway
