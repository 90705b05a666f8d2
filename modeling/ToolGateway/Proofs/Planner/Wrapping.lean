import ToolGateway.Proofs.Planner.Extraction
import ToolGateway.Proofs.Text.Occurrence

namespace ToolGateway.Plan

-- An object's text on its own: a bracket at each end and no fence between them.
structure Bare (o : List Char) : Prop where
  opens : o.head? = some '\x7b'
  closes : o.getLast? = some '\x7d'
  unfenced : ¬ closeFence <:+: o

section
variable {o before after w₁ w₂ : List Char} {c : Char}

theorem Bare.shape (bare : Bare o) : ∃ inner, o = '\x7b' :: (inner ++ ['\x7d']) := by
  cases o with
  | nil => cases bare.opens
  | cons first rest =>
    obtain rfl : first = '\x7b' := Option.some.inj bare.opens
    rcases List.eq_nil_or_concat' rest with rfl | ⟨inner, last, rfl⟩
    · cases bare.closes
    · have closes := bare.closes
      rw [← List.cons_append, List.getLast?_concat] at closes
      cases closes
      exact ⟨inner, rfl⟩

theorem Bare.nonempty (bare : Bare o) : o ≠ [] := by
  rintro rfl
  cases bare.opens

theorem Bare.trimmed (bare : Bare o) : Text.Trimmed o where
  head c first := by
    rw [bare.opens] at first
    cases first
    rfl
  last c ending := by
    rw [bare.closes] at ending
    cases ending
    rfl

theorem fence_opens : closeFence <+: openFence := by decide

theorem unopened (unfenced : ¬ closeFence <:+: o) : ¬ openFence <:+: o :=
  fun opened => unfenced (fence_opens.isInfix.trans opened)

-- No two opening fences overlap: what a fence ends with is no start of one.
theorem fences_apart {front tail : List Char} (some_front : front ≠ []) (some_tail : tail ≠ [])
    (parts : openFence = front ++ tail) : ¬ tail <+: openFence := by
  have every : ∀ k ∈ List.range 7, k ≠ 0 → ¬ openFence.drop k <+: openFence := by decide
  have size : openFence.length = 7 := rfl
  rw [parts, List.length_append] at size
  have tail_length := List.length_pos_of_ne_nil some_tail
  have front_length := List.length_pos_of_ne_nil some_front
  have dropped := every front.length (List.mem_range.mpr (by omega)) (by omega)
  have kept : openFence.drop front.length = tail := by rw [parts, List.drop_left]
  rwa [kept] at dropped

theorem fence_ticks (part : c ∈ closeFence) : c = '`' := by
  have ticks : closeFence = List.replicate 3 '`' := rfl
  rw [ticks] at part
  exact List.eq_of_mem_replicate part

theorem blank_unfenced (blank : ∀ c ∈ w₁, Text.isBlank c = true) : ¬ closeFence <:+: w₁ := by
  intro inside
  have tick : '`' ∈ closeFence := by decide
  have solid : Text.isBlank '`' = false := by decide
  cases solid.symm.trans (blank '`' (inside.subset tick))

theorem Bare.block_unfenced (bare : Bare o) (blank₁ : ∀ c ∈ w₁, Text.isBlank c = true)
    (blank₂ : ∀ c ∈ w₂, Text.isBlank c = true) : ¬ closeFence <:+: w₁ ++ (o ++ w₂) := by
  obtain ⟨inner, rfl⟩ := bare.shape
  have opening : '\x7b' ∉ closeFence := by decide
  have closing : '\x7d' ∉ closeFence := by decide
  intro inside
  rw [List.cons_append, List.append_assoc] at inside
  rcases Text.infix_beside opening inside with front | behind
  · exact blank_unfenced blank₁ front
  · rcases Text.infix_beside closing behind with within | back
    · exact bare.unfenced (List.infix_cons (within.trans (List.prefix_append inner ['\x7d']).isInfix))
    · exact blank_unfenced blank₂ back

theorem Bare.block_last (bare : Bare o) (blank₂ : ∀ c ∈ w₂, Text.isBlank c = true)
    (last : (w₁ ++ (o ++ w₂)).getLast? = some c) : c ≠ '`' := by
  rintro rfl
  rw [List.getLast?_append_of_ne_nil _ (List.append_ne_nil_of_left_ne_nil bare.nonempty w₂)] at last
  by_cases none_behind : w₂ = []
  · rw [none_behind, List.append_nil, bare.closes] at last
    cases last
  · rw [List.getLast?_append_of_ne_nil _ none_behind] at last
    cases blank₂ '`' (List.mem_of_getLast? last)

theorem Bare.cut_close (bare : Bare o) (blank₁ : ∀ c ∈ w₁, Text.isBlank c = true)
    (blank₂ : ∀ c ∈ w₂, Text.isBlank c = true) (after : List Char) :
    Text.cut closeFence (w₁ ++ (o ++ w₂) ++ (closeFence ++ after)) = some (w₁ ++ (o ++ w₂), after) := by
  apply Text.cut_first (bare.block_unfenced blank₁ blank₂)
  -- The block does not end in a tick, so no closing fence begins in it.
  intro front tail some_front _ parts behind _
  have ends := List.getLast?_eq_some_getLast some_front
  have tick : front.getLast some_front = '`' := by
    apply fence_ticks
    rw [parts]
    exact List.mem_append_left tail (List.getLast_mem some_front)
  obtain ⟨more, whole⟩ := behind
  have ending : (w₁ ++ (o ++ w₂)).getLast? = some (front.getLast some_front) := by
    rw [← whole, List.getLast?_append_of_ne_nil more some_front, ends]
  exact bare.block_last blank₂ ending tick

theorem cut_open (absent : ¬ openFence <:+: before) (after : List Char) :
    Text.cut openFence (before ++ (openFence ++ after)) = some (before, after) :=
  Text.cut_first absent (fun _ _ some_front some_tail parts _ => fences_apart some_front some_tail parts) after

theorem trimStart_unopened (absent : ¬ openFence <:+: before) : ¬ openFence <:+: Text.trimStart before :=
  fun inside => absent (inside.trans (List.dropWhile_suffix _).isInfix)

theorem Bare.trim_block (bare : Bare o) (blank₁ : ∀ c ∈ w₁, Text.isBlank c = true)
    (blank₂ : ∀ c ∈ w₂, Text.isBlank c = true) : Text.trimChars (w₁ ++ (o ++ w₂)) = o := by
  rw [bare.trimmed.between bare.nonempty, Text.trimStart_blank blank₁, Text.trimEnd_blank blank₂, List.append_nil,
    List.nil_append]

theorem Bare.extract_closed (bare : Bare o) (absent : ¬ openFence <:+: before)
    (blank₁ : ∀ c ∈ w₁, Text.isBlank c = true) (blank₂ : ∀ c ∈ w₂, Text.isBlank c = true) (after : List Char) :
    extract (before ++ (openFence ++ (w₁ ++ (o ++ w₂) ++ (closeFence ++ after)))) = o := by
  have fenced : Text.Trimmed (openFence ++ (w₁ ++ (o ++ w₂) ++ closeFence)) := by
    constructor
    · intro c first
      cases first
      rfl
    · intro c ending
      rw [← List.append_assoc, List.getLast?_append_of_ne_nil _ (by decide)] at ending
      cases ending
      rfl
  have shape : before ++ (openFence ++ (w₁ ++ (o ++ w₂) ++ (closeFence ++ after))) =
      before ++ ((openFence ++ (w₁ ++ (o ++ w₂) ++ closeFence)) ++ after) := by
    simp only [List.append_assoc]
  have trimmed : Text.trimChars (before ++ (openFence ++ (w₁ ++ (o ++ w₂) ++ (closeFence ++ after)))) =
      Text.trimStart before ++ (openFence ++ (w₁ ++ (o ++ w₂) ++ (closeFence ++ Text.trimEnd after))) := by
    rw [shape, fenced.between (List.append_ne_nil_of_left_ne_nil (by decide) _)]
    simp only [List.append_assoc]
  simp only [extract, trimmed, cut_open (trimStart_unopened absent), bare.cut_close blank₁ blank₂]
  exact bare.trim_block blank₁ blank₂

theorem Bare.extract_unclosed (bare : Bare o) (absent : ¬ openFence <:+: before)
    (blank₁ : ∀ c ∈ w₁, Text.isBlank c = true) (blank₂ : ∀ c ∈ w₂, Text.isBlank c = true) :
    extract (before ++ (openFence ++ (w₁ ++ (o ++ w₂)))) = o := by
  have fenced : Text.Trimmed (openFence ++ (w₁ ++ o)) := by
    constructor
    · intro c first
      cases first
      rfl
    · intro c ending
      rw [← List.append_assoc, List.getLast?_append_of_ne_nil _ bare.nonempty] at ending
      exact bare.trimmed.last c ending
  have shape : before ++ (openFence ++ (w₁ ++ (o ++ w₂))) = before ++ ((openFence ++ (w₁ ++ o)) ++ w₂) := by
    simp only [List.append_assoc]
  have trimmed : Text.trimChars (before ++ (openFence ++ (w₁ ++ (o ++ w₂)))) =
      Text.trimStart before ++ (openFence ++ (w₁ ++ (o ++ []))) := by
    rw [shape, fenced.between (List.append_ne_nil_of_left_ne_nil (by decide) _), Text.trimEnd_blank blank₂]
    simp only [List.append_assoc]
  have none_blank : ∀ c ∈ ([] : List Char), Text.isBlank c = true := by simp
  have open_ := cut_absent (bare.block_unfenced blank₁ none_blank)
  simp only [extract, trimmed, cut_open (trimStart_unopened absent), open_]
  exact bare.trim_block blank₁ none_blank

-- No fence reaches over a bracket, so among words without one there is none.
theorem Bare.among_unopened (bare : Bare o) (absent₁ : ¬ openFence <:+: before) (absent₂ : ¬ openFence <:+: after) :
    ¬ openFence <:+: before ++ (o ++ after) := by
  obtain ⟨inner, rfl⟩ := bare.shape
  have opening : '\x7b' ∉ openFence := by decide
  have closing : '\x7d' ∉ openFence := by decide
  intro inside
  rw [List.cons_append, List.append_assoc] at inside
  rcases Text.infix_beside opening inside with front | behind
  · exact absent₁ front
  · rcases Text.infix_beside closing behind with within | back
    · exact unopened bare.unfenced (List.infix_cons (within.trans (List.prefix_append inner ['\x7d']).isInfix))
    · exact absent₂ back

theorem Bare.extract_among (bare : Bare o) (first : '\x7b' ∉ before) (last : '\x7d' ∉ after)
    (absent₁ : ¬ openFence <:+: before) (absent₂ : ¬ openFence <:+: after) :
    extract (before ++ (o ++ after)) = o := by
  have unfenced : ¬ openFence <:+: Text.trimChars (before ++ (o ++ after)) :=
    fun inside => bare.among_unopened absent₁ absent₂ (inside.trans (Text.trimChars_infix _))
  have first' : '\x7b' ∉ Text.trimStart before := fun inside => first ((List.dropWhile_suffix _).subset inside)
  have last' : '\x7d' ∉ Text.trimEnd after := fun inside => last ((Text.trimEnd_starts after).subset inside)
  simp only [extract, cut_absent unfenced]
  rw [bare.trimmed.between bare.nonempty]
  obtain ⟨inner, rfl⟩ := bare.shape
  have shape : '\x7b' :: (inner ++ ['\x7d']) ++ Text.trimEnd after =
      '\x7b' :: (inner ++ '\x7d' :: Text.trimEnd after) := by simp
  rw [shape, braced_closed first' inner last']

end

def ofText (text : String) : Plan := ((Json.parse? text).bind Json.object?).elim degraded ofMembers

theorem parse_taken {output text : String} (taken : extract output.toList = text.toList) : parse output = ofText text := by
  rw [parse, taken, ofText, Json.parse?]
  cases (Json.parseChars? text.toList).bind Json.object? <;> rfl

-- An object without a fence is the plan's only source, however it is wrapped: in a fence, closed or not, behind words
-- without an opening fence, or among words that hold no fence and no bracket that could be taken for one of its ends.
theorem wrapping_keeps_plan (o : String) (bare : Bare o.toList) :
    parse o = ofText o ∧
    (∀ before w₁ w₂ after : String, ¬ openFence <:+: before.toList →
      (∀ c ∈ w₁.toList, Text.isBlank c = true) → (∀ c ∈ w₂.toList, Text.isBlank c = true) →
      parse (before ++ "```json" ++ w₁ ++ o ++ w₂ ++ "```" ++ after) = parse o ∧
      parse (before ++ "```json" ++ w₁ ++ o ++ w₂) = parse o) ∧
    (∀ before after : String, '\x7b' ∉ before.toList → '\x7d' ∉ after.toList →
      ¬ openFence <:+: before.toList → ¬ openFence <:+: after.toList →
      parse (before ++ o ++ after) = parse o) := by
  have alone : parse o = ofText o := by
    apply parse_taken
    have taken : extract ([] ++ (o.toList ++ [])) = o.toList :=
      bare.extract_among (by simp) (by simp) (by decide) (by decide)
    rwa [List.nil_append, List.append_nil] at taken
  have fences : openFence = "```json".toList ∧ closeFence = "```".toList := ⟨rfl, rfl⟩
  rw [alone]
  refine ⟨rfl, ?_, ?_⟩
  · intro before w₁ w₂ after absent blank₁ blank₂
    constructor
    · apply parse_taken
      have taken := bare.extract_closed absent blank₁ blank₂ after.toList
      simpa only [String.toList_append, List.append_assoc, fences] using taken
    · apply parse_taken
      have taken := bare.extract_unclosed absent blank₁ blank₂
      simpa only [String.toList_append, List.append_assoc, fences] using taken
  · intro before after first last absent₁ absent₂
    apply parse_taken
    have taken := bare.extract_among first last absent₁ absent₂
    simpa only [String.toList_append, List.append_assoc] using taken

theorem wrapping_keeps_plan_twice_fenced :
    let o := "\x7b\"tool\":\"t\"\x7d"
    Bare o.toList ∧ (parse o).tool = some "t" ∧
      parse ("``\x7b``" ++ "```json" ++ "\n" ++ o ++ " " ++ "```" ++ " ```json\x7d```") = parse o ∧
      parse ("``\x7b``" ++ "```json" ++ "\n" ++ o ++ " ") = parse o ∧
      parse ("\x7d```" ++ o ++ "```\x7b") = parse o := by
  intro o
  have bare : Bare o.toList := ⟨by decide, by decide, by decide⟩
  obtain ⟨_, fenced, among⟩ := wrapping_keeps_plan o bare
  obtain ⟨closed, unclosed⟩ := fenced "``\x7b``" "\n" " " " ```json\x7d```" (by decide) (List.all_eq_true.mp rfl)
    (List.all_eq_true.mp rfl)
  refine ⟨bare, by decide +kernel, closed, unclosed, ?_⟩
  exact among "\x7d```" "```\x7b" (by decide) (by decide) (by decide) (by decide)

end ToolGateway.Plan
