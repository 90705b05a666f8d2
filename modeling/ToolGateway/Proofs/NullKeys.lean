import ToolGateway.Proofs.Listing
import ToolGateway.Proofs.Tool

namespace ToolGateway

namespace Json

def without (dropped : String → Bool) : Json → Json
  | .object members => .object (members.filter fun m => !dropped m.1)
  | v => v

def withoutNulls (v : Json) : Json := v.without fun key => (v.get? key).any isNull

-- A document beside what is left of it when some of its keys are taken out, each of them null.
inductive Sheds (v : Json) : Json → Prop where
  | keys (null : ∀ key, dropped key = true → v.get? key = some .null) : Sheds v (v.without dropped)

section
variable {v other : Json} {key : String}

theorem find?_filter (kept : String → Bool) (members : Members) (key : String) :
    Members.find? key (members.filter fun m => kept m.1) = if kept key then members.find? key else none := by
  induction members with
  | nil => exact (ite_self none).symm
  | cons m rest ih =>
    obtain ⟨name, v⟩ := m
    by_cases same : key = name
    · subst same
      cases keep : kept key with
      | false =>
        rw [List.filter_cons_of_neg (by simp [keep]), ih, keep]
        rfl
      | true =>
        rw [List.filter_cons_of_pos (by simp [keep]), Members.find?, if_pos rfl, if_pos rfl, Members.find?, if_pos rfl]
    · rw [List.filter_cons]
      split
      · rw [Members.find?, if_neg same, ih, Members.find?, if_neg same]
      · rw [ih, Members.find?, if_neg same]

theorem get?_without (dropped : String → Bool) (v : Json) (key : String) :
    (v.without dropped).get? key = if dropped key then none else v.get? key := by
  cases v with
  | object members =>
    rw [without, get?, find?_filter (fun name => !dropped name), get?]
    cases dropped key <;> rfl
  | _ => exact (ite_self none).symm

theorem Sheds.get? (sheds : Sheds v other) (key : String) :
    other.get? key = v.get? key ∨ other.get? key = none ∧ v.get? key = some .null := by
  cases sheds with
  | @keys dropped null =>
    rw [get?_without]
    cases gone : dropped key with
    | false => exact .inl rfl
    | true => exact .inr ⟨rfl, null key gone⟩

-- Null is no text, so nothing that is read as text is touched.
theorem Sheds.textAt (sheds : Sheds v other) (key : String) : other.textAt key = v.textAt key := by
  rcases sheds.get? key with same | ⟨gone, null⟩
  · rw [Json.textAt, Json.textAt, same]
  · rw [Json.textAt, Json.textAt, gone, null]
    rfl

theorem any_isNull : (v.get? key).any isNull = true ↔ v.get? key = some .null := by
  cases v.get? key with
  | none => simp
  | some u => cases u <;> simp [isNull]

theorem sheds_withoutNulls (v : Json) : Sheds v v.withoutNulls := .keys fun _ => any_isNull.mp

theorem get?_withoutNulls (v : Json) (key : String) :
    v.withoutNulls.get? key = (v.get? key).filter fun u => !u.isNull := by
  rw [withoutNulls, get?_without]
  cases v.get? key with
  | none => rfl
  | some u => cases u <;> rfl

end
end Json

namespace Tool

-- A schema that is out of sight: it stands under the second key, and the first one is null.
def Hides (raw schema : Json) : Prop :=
  raw.get? "inputSchema" = some .null ∧ raw.get? "parameters" = some schema ∧ schema ≠ .null

-- A tool beside the one that comes of its description without null keys: the same, or a lost schema is back.
inductive Regains (raw : Json) (tool : Tool) : Tool → Prop where
  | same : Regains raw tool tool
  | schema (hidden : Hides raw schema) (empty : tool.parameters = emptySchema) :
      Regains raw tool {tool with parameters := schema}

section
variable {raw other schema : Json} {tool regained : Tool}

theorem Regains.same_name (regains : Regains raw tool regained) : regained.name = tool.name := by
  cases regains <;> rfl

theorem schemaOf_null (null : raw.get? "inputSchema" = some .null) : schemaOf raw = emptySchema := by
  rw [schemaOf, null]
  rfl

theorem schemaOf_withoutNulls (hidden : Hides raw schema) : schemaOf raw.withoutNulls = schema := by
  obtain ⟨null, found, present⟩ := hidden
  apply schemaOf_given present
  rw [Json.get?_withoutNulls, Json.get?_withoutNulls, null, found]
  cases schema with
  | null => exact absurd rfl present
  | _ => rfl

theorem schemaOf_sheds (sheds : raw.Sheds other) : schemaOf other = schemaOf raw ∨ Hides raw (schemaOf other) := by
  rcases sheds.get? "inputSchema" with kept | ⟨gone, null⟩
  · left
    rcases sheds.get? "parameters" with same | ⟨lacking, null⟩
    · rw [schemaOf, schemaOf, kept, same]
    · -- The first key decides, or a null under the second one gives the empty schema as no key does.
      rw [schemaOf, schemaOf, kept, lacking, null]
      cases raw.get? "inputSchema" <;> rfl
  · rw [schemaOf_null null]
    cases found : other.get? "parameters" with
    | none =>
      left
      rw [schemaOf, gone, found]
      rfl
    | some schema =>
      rcases sheds.get? "parameters" with same | ⟨lacking, _⟩
      · by_cases absent : schema = .null
        · left
          rw [schemaOf, gone, found, absent]
          rfl
        · right
          have shown : schemaOf other = schema := schemaOf_given absent (by rw [gone, found]; rfl)
          rw [shown]
          exact ⟨null, same.symm.trans found, absent⟩
      · cases found.symm.trans lacking

theorem ofDescriptor?_sheds (sheds : raw.Sheds other) :
    ofDescriptor? other = (ofDescriptor? raw).map fun tool => {tool with parameters := schemaOf other} := by
  rw [ofDescriptor?, ofDescriptor?, sheds.textAt, sheds.textAt]
  cases raw.textAt "name" with
  | none => rfl
  | some given =>
    simp only [Option.bind_some]
    split <;> rfl

theorem made_sheds (sheds : raw.Sheds other) (made : ofDescriptor? raw = some tool) :
    ∃ regained, ofDescriptor? other = some regained ∧ Regains raw tool regained := by
  have again := ofDescriptor?_sheds sheds
  rw [made, Option.map_some] at again
  refine ⟨_, again, ?_⟩
  have settled : tool.parameters = schemaOf raw := (ofDescriptor?_settled made).2.2
  rcases schemaOf_sheds sheds with same | hidden
  · rw [same, ← settled]
    exact .same
  · exact .schema hidden (settled.trans (schemaOf_null hidden.1))

end
end Tool

namespace Catalog

-- The description that a tool of the catalog is made of: the first one with its name.
def Kept (raws : List Json) (raw : Json) (tool : Tool) : Prop :=
  ∃ front back, raws = front ++ raw :: back ∧ Judged front raw (.kept tool)

-- No tool lacks a schema that is out of sight. An empty one is not missed.
def Unhidden (raws : List Json) : Prop :=
  ∀ raw tool schema, Kept raws raw tool → Tool.Hides raw schema → schema = Tool.emptySchema

structure Alike (raws : List Json) (listing other : Listing) : Prop where
  warnings : other.warnings = listing.warnings
  tools : List.Forall₂ (fun tool regained => ∃ raw, Kept raws raw tool ∧ Tool.Regains raw tool regained)
    listing.tools other.tools

section
variable {listing other : Listing} {front fronts raws others : List Json} {raw lighter schema : Json} {tool : Tool}

theorem judged_kept :
    Judged front raw (.kept tool) ↔ Tool.ofDescriptor? raw = some tool ∧ (list front).has tool.name = false := by
  rw [← Bool.not_eq_true, has_list]
  constructor
  · intro judged
    cases judged with
    | first made new => exact ⟨made, fun ⟨other, present, named⟩ => new other present named⟩
  · rintro ⟨made, new⟩
    exact .first made fun other present named => new ⟨other, present, named⟩

theorem Kept.append (kept : Kept front raw tool) (back : List Json) : Kept (front ++ back) raw tool := by
  obtain ⟨before, behind, rfl, judged⟩ := kept
  exact ⟨before, behind ++ back, by rw [List.append_assoc, List.cons_append], judged⟩

theorem Alike.append (alike : Alike front listing other) (back : List Json) : Alike (front ++ back) listing other where
  warnings := alike.warnings
  tools := alike.tools.imp fun _ _ ⟨raw, kept, regains⟩ => ⟨raw, kept.append back, regains⟩

theorem Alike.names (alike : Alike raws listing other) : other.tools.map Tool.name = listing.tools.map Tool.name := by
  have paired : List.Forall₂ (· = ·) (other.tools.map Tool.name) (listing.tools.map Tool.name) := by
    rw [List.forall₂_map_left_iff, List.forall₂_map_right_iff]
    exact alike.tools.flip.imp fun _ _ ⟨_, _, regains⟩ => regains.same_name
  rwa [List.forall₂_eq_eq_eq] at paired

theorem Alike.has (alike : Alike raws listing other) (name : String) : other.has name = listing.has name := by
  rw [Bool.eq_iff_iff, has_exact, has_exact, ← List.mem_map, ← List.mem_map, alike.names]

-- One more description, entered as it is on one side and without some of its null keys on the other.
theorem Alike.next (alike : Alike front (list front) other) (sheds : raw.Sheds lighter) :
    Alike (front ++ [raw]) (list (front ++ [raw])) (other.add lighter) := by
  obtain ⟨warnings, tools⟩ := alike.append [raw]
  rw [list_concat]
  cases made : Tool.ofDescriptor? raw with
  | none =>
    have nothing : Tool.ofDescriptor? lighter = none := by
      rw [Tool.ofDescriptor?_sheds sheds, made]
      rfl
    rw [add_nameless made, add_nameless nothing]
    exact ⟨by rw [warnings], tools⟩
  | some tool =>
    obtain ⟨regained, again, regains⟩ := Tool.made_sheds sheds made
    have same : other.has regained.name = (list front).has tool.name := by rw [regains.same_name, alike.has]
    cases known : (list front).has tool.name with
    | true =>
      rw [add_known made known, add_known again (same.trans known)]
      exact ⟨by rw [warnings, regains.same_name], tools⟩
    | false =>
      rw [add_new made known, add_new again (same.trans known)]
      have kept : Kept (front ++ [raw]) raw tool := ⟨front, [], rfl, judged_kept.mpr ⟨made, known⟩⟩
      exact ⟨warnings, List.rel_append tools (.cons ⟨raw, kept, regains⟩ .nil)⟩

theorem Alike.all (alike : Alike front (list front) (list fronts)) (shed : List.Forall₂ Json.Sheds raws others) :
    Alike (front ++ raws) (list (front ++ raws)) (list (fronts ++ others)) := by
  induction shed generalizing front fronts with
  | nil =>
    rw [List.append_nil, List.append_nil]
    exact alike
  | cons sheds _ ih =>
    rw [List.append_cons, List.append_cons fronts]
    apply ih
    rw [list_concat fronts]
    exact alike.next sheds

theorem alike_list (shed : List.Forall₂ Json.Sheds raws others) : Alike raws (list raws) (list others) := by
  have start : Alike [] (list []) (list []) := ⟨rfl, .nil⟩
  exact start.all shed

theorem Alike.equal (alike : Alike raws listing other) (unhidden : Unhidden raws) : other = listing := by
  have paired : List.Forall₂ (· = ·) listing.tools other.tools := by
    refine alike.tools.imp fun tool regained ⟨raw, kept, regains⟩ => ?_
    cases regains with
    | same => rfl
    | schema hidden empty => rw [unhidden raw tool _ kept hidden, ← empty]
  rw [List.forall₂_eq_eq_eq] at paired
  cases listing
  cases other
  rw [Listing.mk.injEq]
  exact ⟨paired.symm, alike.warnings⟩

theorem add_keeps (present : tool ∈ listing.tools) (raw : Json) : tool ∈ (listing.add raw).tools := by
  unfold Listing.add
  split
  · exact present
  · split
    · exact present
    · exact List.mem_append_left _ present

theorem foldl_keeps (present : tool ∈ listing.tools) (raws : List Json) :
    tool ∈ (raws.foldl Listing.add listing).tools := by
  induction raws generalizing listing with
  | nil => exact present
  | cons raw rest ih => exact ih (add_keeps present raw)

theorem Kept.listed (kept : Kept raws raw tool) : tool ∈ (list raws).tools := by
  obtain ⟨front, back, rfl, judged⟩ := kept
  obtain ⟨made, new⟩ := judged_kept.mp judged
  rw [List.append_cons, list, List.foldl_append]
  apply foldl_keeps
  change tool ∈ (list (front ++ [raw])).tools
  rw [list_concat, add_new made new]
  exact List.mem_append_right _ List.mem_cons_self

theorem shed_withoutNulls (raws : List Json) : List.Forall₂ Json.Sheds raws (raws.map Json.withoutNulls) := by
  rw [List.forall₂_map_right_iff, List.forall₂_same]
  exact fun raw _ => Json.sheds_withoutNulls raw

theorem Kept.regained (kept : Kept raws raw tool) (hidden : Tool.Hides raw schema) :
    {tool with parameters := schema} ∈ (list (raws.map Json.withoutNulls)).tools := by
  obtain ⟨front, back, rfl, judged⟩ := kept
  obtain ⟨made, new⟩ := judged_kept.mp judged
  have again : Tool.ofDescriptor? raw.withoutNulls = some {tool with parameters := schema} := by
    rw [Tool.ofDescriptor?_sheds (Json.sheds_withoutNulls raw), made, Tool.schemaOf_withoutNulls hidden]
    rfl
  have first : (list (front.map Json.withoutNulls)).has tool.name = false := by
    rw [(alike_list (shed_withoutNulls front)).has]
    exact new
  have kept : Kept ((front ++ raw :: back).map Json.withoutNulls) raw.withoutNulls {tool with parameters := schema} :=
    ⟨front.map _, back.map _, by rw [List.map_append, List.map_cons], judged_kept.mpr ⟨again, first⟩⟩
  exact kept.listed

theorem Kept.hidden (kept : Kept raws raw tool) (hidden : Tool.Hides raw schema) :
    tool.parameters = Tool.emptySchema := by
  obtain ⟨_, _, _, judged⟩ := kept
  have settled := Tool.ofDescriptor?_settled (judged_kept.mp judged).1
  exact settled.2.2.trans (Tool.schemaOf_null hidden.1)

-- Names are distinct, so a catalog does not hold a tool with and without its schema.
theorem unhidden_withoutNulls (same : list (raws.map Json.withoutNulls) = list raws) : Unhidden raws := by
  intro raw tool schema kept hidden
  have regained := kept.regained hidden
  rw [same] at regained
  have one := List.inj_on_of_nodup_map (list_distinct raws) regained kept.listed rfl
  exact (congrArg Tool.parameters one).trans (kept.hidden hidden)

end

-- Whichever null keys the descriptions do without, the warnings stay, and so do the tools but for schemas that were out
-- of sight. Without all null keys the listing is the same exactly where no tool lacks such a schema.
theorem null_keys_dropped (raws others : List Json) (shed : List.Forall₂ Json.Sheds raws others) :
    Alike raws (list raws) (list others) ∧ (Unhidden raws → list others = list raws) ∧
    (list (raws.map Json.withoutNulls) = list raws ↔ Unhidden raws) ∧
    ∀ raw tool schema, Kept raws raw tool → Tool.Hides raw schema →
      tool ∈ (list raws).tools ∧ tool.parameters = Tool.emptySchema ∧
      {tool with parameters := schema} ∈ (list (raws.map Json.withoutNulls)).tools := by
  refine ⟨alike_list shed, (alike_list shed).equal, ?_, ?_⟩
  · exact ⟨unhidden_withoutNulls, (alike_list (shed_withoutNulls raws)).equal⟩
  · intro raw tool schema kept hidden
    exact ⟨kept.listed, kept.hidden hidden, kept.regained hidden⟩

def misplaced : Json :=
  .object [("inputSchema", .null), ("name", .text "t"), ("parameters", .object [("type", .text "object")])]

theorem null_keys_dropped_repeated :
    let described : Json := .object [("description", .null), ("name", .text " t "), ("parameters", .bool true)]
    let nameless : Json := .object [("inputSchema", .null), ("name", .null)]
    let raws := [described, misplaced, nameless]
    let others := [described.without (· == "description"), misplaced.without (· == "inputSchema"),
      nameless.without (· == "inputSchema")]
    List.Forall₂ Json.Sheds raws others ∧ Unhidden raws ∧ list others = list raws ∧
      (list raws).warnings = [.duplicate "t", .nameless] ∧
      Kept [misplaced] misplaced ⟨"t", "", Tool.emptySchema⟩ ∧
      Tool.Hides misplaced (.object [("type", .text "object")]) ∧
      ⟨"t", "", .object [("type", .text "object")]⟩ ∈ (list [misplaced.withoutNulls]).tools := by
  intro described nameless raws others
  have shed : List.Forall₂ Json.Sheds raws others := by
    refine .cons (.keys fun key same => ?_) (.cons (.keys fun key same => ?_) (.cons (.keys fun key same => ?_) .nil))
    all_goals
      rw [beq_iff_eq.mp same]
      cbv
  obtain ⟨_, equal, exact, _⟩ := null_keys_dropped raws others shed
  have unhidden : Unhidden raws := exact.mp (by cbv)
  have alone := null_keys_dropped [misplaced] _ (shed_withoutNulls [misplaced])
  have kept : Kept [misplaced] misplaced ⟨"t", "", Tool.emptySchema⟩ :=
    ⟨[], [], rfl, judged_kept.mpr ⟨by cbv, by cbv⟩⟩
  have hidden : Tool.Hides misplaced (.object [("type", .text "object")]) := ⟨by cbv, by cbv, by simp⟩
  obtain ⟨_, _, regained⟩ := alone.2.2.2 misplaced _ _ kept hidden
  exact ⟨shed, unhidden, equal unhidden, by cbv, kept, hidden, regained⟩

-- Without its null key the description gives a tool with its schema, and with it a tool without one.
theorem misplaced_schema_lost :
    list [misplaced] = ⟨[⟨"t", "", Tool.emptySchema⟩], []⟩ ∧
    list [misplaced.withoutNulls] = ⟨[⟨"t", "", .object [("type", .text "object")]⟩], []⟩ ∧
    ¬ ∀ raws, list (raws.map Json.withoutNulls) = list raws := by
  have lost : list [misplaced] = ⟨[⟨"t", "", Tool.emptySchema⟩], []⟩ := by cbv
  have found : list [misplaced.withoutNulls] = ⟨[⟨"t", "", .object [("type", .text "object")]⟩], []⟩ := by cbv
  refine ⟨lost, found, fun same => ?_⟩
  have equal := found.symm.trans ((same [misplaced]).trans lost)
  simp [Tool.emptySchema] at equal

end Catalog

end ToolGateway
