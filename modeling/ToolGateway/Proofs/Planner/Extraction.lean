import ToolGateway.Proofs.Json.Members
import ToolGateway.Proofs.Planner.Answer
import ToolGateway.Proofs.Text.Bytes

namespace ToolGateway

namespace Plan

-- From the first opening brace to the last closing one, by their positions.
def outermost? (s : List Char) : Option (List Char) :=
  match Text.find? ['\x7b'] s, Text.findLast? '\x7d' s with
  | some start, some stop => if start < stop then Text.slice? start (stop + 1) s else some s
  | _, _ => some s

-- What is taken for the object, by positions: every slice may fail, and then there is nothing.
def extractAt? (output : List Char) : Option (List Char) :=
  let trimmed := Text.trimChars output
  match Text.find? openFence trimmed with
  | some start => do
    let rest ← Text.slice? (start + Text.byteLength openFence) (Text.byteLength trimmed) trimmed
    match Text.find? closeFence rest with
    | some stop => (Text.slice? 0 stop rest).map Text.trimChars
    | none => some (Text.trimChars rest)
  | none => outermost? trimmed

section
variable {s before after : List Char} {c : Char}

theorem infix_of_dropped (p : Char → Bool) (s : List Char) : (s.reverse.dropWhile p).reverse <:+: s := by
  have front := List.reverse_prefix.mpr (List.dropWhile_suffix (l := s.reverse) p)
  rw [List.reverse_reverse] at front
  exact front.isInfix

theorem braced_infix (s : List Char) : braced s <:+: s := by
  simp only [braced]
  split
  · exact List.infix_rfl
  · exact (infix_of_dropped _ _).trans (List.dropWhile_suffix _).isInfix

theorem extract_infix (output : List Char) : extract output <:+: output := by
  apply List.IsInfix.trans _ (Text.trimChars_infix output)
  simp only [extract]
  split
  · rename_i found
    have inside : _ <:+: Text.trimChars output := ⟨_, [], (List.append_nil _).trans (Text.cut_eq found).symm⟩
    apply List.IsInfix.trans _ inside
    split
    · rename_i closed
      have within : _ <:+: _ := ⟨[], _, (List.append_assoc ..).symm.trans (Text.cut_eq closed).symm⟩
      exact (Text.trimChars_infix _).trans within
    · exact Text.trimChars_infix _
  · exact braced_infix _

theorem dropWhile_first (absent : c ∉ before) (after : List Char) :
    (before ++ c :: after).dropWhile (· != c) = c :: after := by
  have passed : ∀ d ∈ before, (d != c) = true := by
    intro d present
    rw [bne_iff_ne]
    rintro rfl
    exact absent present
  rw [List.dropWhile_append_of_pos passed]
  simp

theorem dropWhile_absent (absent : c ∉ s) : s.dropWhile (· != c) = [] := by
  rw [List.dropWhile_eq_nil_iff]
  intro d present
  rw [bne_iff_ne]
  rintro rfl
  exact absent present

theorem braced_unopened (absent : '\x7b' ∉ s) : braced s = s := by
  simp [braced, dropWhile_absent absent]

theorem braced_unclosed (first : '\x7b' ∉ before) (open_ : '\x7d' ∉ after) :
    braced (before ++ '\x7b' :: after) = before ++ '\x7b' :: after := by
  have none_behind : '\x7d' ∉ ('\x7b' :: after).reverse := by
    rw [List.mem_reverse, List.mem_cons]
    rintro (same | inside)
    · cases same
    · exact open_ inside
  simp only [braced, dropWhile_first first, dropWhile_absent none_behind, List.reverse_nil]

theorem braced_closed (first : '\x7b' ∉ before) (inner : List Char) (last : '\x7d' ∉ after) :
    braced (before ++ '\x7b' :: (inner ++ '\x7d' :: after)) = '\x7b' :: (inner ++ ['\x7d']) := by
  have turned : ('\x7b' :: (inner ++ '\x7d' :: after)).reverse =
      after.reverse ++ '\x7d' :: ('\x7b' :: inner).reverse := by simp
  have none_behind : '\x7d' ∉ after.reverse := fun inside => last (List.mem_reverse.mp inside)
  simp only [braced, dropWhile_first first, turned, dropWhile_first none_behind]
  simp

theorem slice?_of {start stop : Nat} {piece : List Char} (before after : List Char)
    (whole : s = before ++ (piece ++ after)) (began : Text.byteLength before = start)
    (ended : start + Text.byteLength piece = stop) :
    Text.slice? start stop s = some piece :=
  Text.slice?_exact.mpr ⟨before, after, whole, began, ended⟩

theorem slice?_front (front after : List Char) : Text.slice? 0 (Text.byteLength front) (front ++ after) = some front :=
  slice?_of [] after rfl rfl (Nat.zero_add _)

theorem slice?_back (front back : List Char) :
    Text.slice? (Text.byteLength front) (Text.byteLength (front ++ back)) (front ++ back) = some back :=
  slice?_of front [] (by rw [List.append_nil]) rfl (Text.byteLength_append front back).symm

theorem find?_first (absent : c ∉ before) (after : List Char) :
    Text.find? [c] (before ++ c :: after) = some (Text.byteLength before) := by
  rw [Text.find?, Text.cut_single absent]
  rfl

theorem findLast?_last (before : List Char) (absent : c ∉ after) :
    Text.findLast? c (before ++ c :: after) = some (Text.byteLength before) := by
  rw [Text.findLast?, Text.cutLast_single absent]
  rfl

theorem braced_slice_unclosed (first : '\x7b' ∉ before) (unclosed : '\x7d' ∉ after) :
    outermost? (before ++ '\x7b' :: after) = some (before ++ '\x7b' :: after) := by
  rw [outermost?, find?_first first]
  by_cases early : '\x7d' ∈ before
  · obtain ⟨front, back, rfl, last⟩ := Text.last_split early
    have split : front ++ '\x7d' :: back ++ '\x7b' :: after = front ++ '\x7d' :: (back ++ '\x7b' :: after) := by simp
    have behind : '\x7d' ∉ back ++ '\x7b' :: after := by simp [last, unclosed]
    have order : ¬ Text.byteLength (front ++ '\x7d' :: back) < Text.byteLength front := by
      rw [Text.byteLength_append]
      omega
    rw [split, findLast?_last front behind]
    exact if_neg order
  · have absent : '\x7d' ∉ before ++ '\x7b' :: after := by simp [early, unclosed]
    rw [Text.findLast?, Text.cutLast_none absent]
    rfl

theorem braced_slice_closed (first : '\x7b' ∉ before) (inner : List Char) (last : '\x7d' ∉ after) :
    outermost? (before ++ '\x7b' :: (inner ++ '\x7d' :: after)) = some ('\x7b' :: (inner ++ ['\x7d'])) := by
  have split : before ++ '\x7b' :: (inner ++ '\x7d' :: after) =
      (before ++ '\x7b' :: inner) ++ '\x7d' :: after := by simp
  have stop : Text.findLast? '\x7d' (before ++ '\x7b' :: (inner ++ '\x7d' :: after)) =
      some (Text.byteLength (before ++ '\x7b' :: inner)) := by
    rw [split]
    exact findLast?_last _ last
  have opening : '\x7b'.utf8Size = 1 := rfl
  have closing : '\x7d'.utf8Size = 1 := rfl
  have length : Text.byteLength (before ++ '\x7b' :: inner) =
      Text.byteLength before + (1 + Text.byteLength inner) := by
    rw [Text.byteLength_append, Text.byteLength_cons, opening]
  have width : Text.byteLength ('\x7b' :: (inner ++ ['\x7d'])) = 1 + (Text.byteLength inner + 1) := by
    rw [Text.byteLength_cons, Text.byteLength_append, Text.byteLength_cons, Text.byteLength_nil, opening, closing]
  rw [outermost?, find?_first first, stop, length]
  dsimp only
  rw [if_pos (by omega)]
  apply slice?_of before after
  · simp
  · rfl
  · rw [width]
    omega

theorem braced_slice (s : List Char) : outermost? s = some (braced s) := by
  by_cases opened : '\x7b' ∈ s
  · obtain ⟨before, after, rfl, first⟩ := List.eq_append_cons_of_mem opened
    by_cases closed : '\x7d' ∈ after
    · obtain ⟨inner, behind, rfl, last⟩ := Text.last_split closed
      rw [braced_closed first inner last, braced_slice_closed first inner last]
    · rw [braced_unclosed first closed, braced_slice_unclosed first closed]
  · rw [outermost?, Text.find?, Text.cut_single_none opened, braced_unopened opened]
    rfl

-- No slice fails: its positions are found in the very text that is cut.
theorem extractAt?_exact (output : List Char) : extractAt? output = some (extract output) := by
  simp only [extractAt?, extract, Text.find?]
  cases opened : Text.cut openFence (Text.trimChars output) with
  | none => exact braced_slice _
  | some parts =>
    obtain ⟨before, rest⟩ := parts
    have whole := Text.cut_eq opened
    have behind : Text.slice? (Text.byteLength before + Text.byteLength openFence)
        (Text.byteLength (Text.trimChars output)) (Text.trimChars output) = some rest := by
      rw [whole, ← Text.byteLength_append]
      exact slice?_back _ rest
    simp only [Option.map_some, behind, Option.bind_eq_bind, Option.bind_some]
    cases closed : Text.cut closeFence rest with
    | none => rfl
    | some inside =>
      obtain ⟨block, after⟩ := inside
      have front : Text.slice? 0 (Text.byteLength block) rest = some block := by
        rw [Text.cut_eq closed, List.append_assoc]
        exact slice?_front block _
      simp only [Option.map_some, front]

theorem parse_cases (output : String) :
    (∃ piece pairs, piece <:+: output.toList ∧ Json.ObjectText piece pairs ∧
      Reads (Json.Members.ofList pairs) (parse output)) ∨ parse output = degraded := by
  cases read : (Json.parseChars? (extract output.toList)).bind Json.object? with
  | none =>
    refine .inr ?_
    rw [parse, read]
  | some members =>
    obtain ⟨v, parsed, form⟩ := Option.bind_eq_some_iff.mp read
    obtain rfl := object?_exact.mp form
    obtain ⟨pairs, spelled, rfl⟩ := Json.parseChars?_object_exact.mp parsed
    refine .inl ⟨_, pairs, extract_infix output.toList, spelled, ?_⟩
    rw [parse, read]
    exact reads_ofMembers _

end

-- A plan with a tool is what one object in the answer says; without such an object the plan is the degraded one; and
-- every slice of the answer is cut where characters begin or end.
theorem plan_of_object (output : String) :
    (∀ tool, (parse output).tool = some tool →
      ∃ piece pairs given, piece <:+: output.toList ∧ Json.ObjectText piece pairs ∧
        Json.latest? "tool" pairs = some (.text given) ∧ Text.trim given = tool ∧ tool ≠ "" ∧
        Text.Trimmed tool.toList ∧
        Taken (fun v => Json.firstOf? ["arguments", "args"] pairs = some v) .object [] (parse output).arguments) ∧
    ((∀ piece pairs, piece <:+: output.toList → ¬ Json.ObjectText piece pairs) → parse output = degraded) ∧
    extractAt? output.toList = some (extract output.toList) := by
  refine ⟨?_, ?_, extractAt?_exact output.toList⟩
  · intro tool named
    rcases parse_cases output with ⟨piece, pairs, inside, spelled, reads⟩ | lost
    · obtain ⟨nonempty, given, found, rfl⟩ := (reads.tool tool).mp named
      rw [Json.find?_ofList] at found
      refine ⟨piece, pairs, given, inside, spelled, found, rfl, nonempty, ?_, ?_⟩
      · rw [Text.trim, String.toList_ofList]
        exact Text.trimmed_trimChars _
      · have arguments := reads.arguments
        simp only [Taken, Json.given_latest] at arguments
        exact arguments
    · rw [lost] at named
      cases named
  · intro without
    rcases parse_cases output with ⟨piece, pairs, inside, spelled, _⟩ | lost
    · exact absurd spelled (without piece pairs inside)
    · exact lost

theorem plan_of_object_fenced :
    let output := "Sure:\n```json\n\x7b\"tool\":\"x\",\"tool\":\" t \"\x7d\n```\nIs that right?"
    (parse output).tool = some "t" ∧
    (∃ piece pairs given, piece <:+: output.toList ∧ Json.ObjectText piece pairs ∧
      Json.latest? "tool" pairs = some (.text given) ∧ Text.trim given = "t") ∧
    (∀ piece pairs, piece <:+: "".toList → ¬ Json.ObjectText piece pairs) ∧ parse "" = degraded := by
  intro output
  have named : (parse output).tool = some "t" := by decide +kernel
  have without : ∀ piece pairs, piece <:+: "".toList → ¬ Json.ObjectText piece pairs := by
    intro piece pairs inside spelled
    obtain rfl : piece = [] := List.infix_nil.mp inside
    have read := Json.parseChars?_object_exact.mpr ⟨pairs, spelled, rfl⟩
    have nothing : Json.parseChars? [] = none := by decide +kernel
    cases nothing.symm.trans read
  obtain ⟨piece, pairs, given, inside, spelled, found, trimmed, _⟩ := (plan_of_object output).1 "t" named
  exact ⟨named, ⟨piece, pairs, given, inside, spelled, found, trimmed⟩, without, (plan_of_object "").2.1 without⟩

end Plan
end ToolGateway
