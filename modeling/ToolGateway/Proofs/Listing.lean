import ToolGateway.Proofs.Catalog
import ToolGateway.Proofs.Json.Access

namespace ToolGateway

namespace Tool

-- The name that a description gives: the text under its key without blank ends, as long as something is left of it.
def Names (raw : Json) (name : String) : Prop :=
  name ≠ "" ∧ ∃ given, raw.get? "name" = some (.text given) ∧ Text.trim given = name

section
variable {raw : Json} {name other : String} {tool : Tool}

theorem names_unique (one : Names raw name) (two : Names raw other) : other = name := by
  obtain ⟨_, given, found, rfl⟩ := one
  obtain ⟨_, again, same, rfl⟩ := two
  cases found.symm.trans same
  rfl

theorem ofDescriptor?_names (made : ofDescriptor? raw = some tool) : Names raw tool.name := by
  obtain ⟨given, found, kept⟩ := Option.bind_eq_some_iff.mp made
  dsimp only at kept
  split at kept
  · cases kept
  · cases kept
    exact ⟨‹_›, given, textAt_exact.mp found, rfl⟩

theorem names_made (named : Names raw name) : ∃ tool, ofDescriptor? raw = some tool := by
  obtain ⟨nonempty, given, found, rfl⟩ := named
  rw [ofDescriptor?, textAt_exact.mpr found, Option.bind_some]
  exact ⟨_, if_neg nonempty⟩

theorem nameless_exact : ofDescriptor? raw = none ↔ ∀ name, ¬ Names raw name := by
  constructor
  · intro nothing name named
    obtain ⟨tool, made⟩ := names_made named
    cases nothing.symm.trans made
  · intro unnamed
    cases made : ofDescriptor? raw with
    | none => rfl
    | some tool => exact absurd (ofDescriptor?_names made) (unnamed tool.name)

end
end Tool

namespace Catalog

inductive Entry where
  | kept (tool : Tool)
  | skipped (warning : Warning)

def Entry.tool? : Entry → Option Tool
  | .kept tool => some tool
  | .skipped _ => none

def Entry.warning? : Entry → Option Warning
  | .kept _ => none
  | .skipped warning => some warning

def Listing.ofEntries (entries : List Entry) : Listing :=
  ⟨entries.filterMap Entry.tool?, entries.filterMap Entry.warning?⟩

-- A description is judged by its own name and by the names of the ones before it.
inductive Judged (earlier : List Json) (raw : Json) : Entry → Prop where
  | first (made : Tool.ofDescriptor? raw = some tool) (new : ∀ other ∈ earlier, ¬ Tool.Names other tool.name) :
      Judged earlier raw (.kept tool)
  | again (named : Tool.Names raw name) (known : ∃ other ∈ earlier, Tool.Names other name) :
      Judged earlier raw (.skipped (.duplicate name))
  | unnamed (nameless : ∀ name, ¬ Tool.Names raw name) : Judged earlier raw (.skipped .nameless)

inductive Ledger : List Json → List Entry → Prop where
  | empty : Ledger [] []
  | next (before : Ledger raws entries) (judged : Judged raws raw entry) : Ledger (raws ++ [raw]) (entries ++ [entry])

section
variable {listing other : Listing} {earlier raws : List Json} {entries : List Entry} {raw : Json} {name : String}
  {tool : Tool} {tools : List Tool}

theorem has_exact : listing.has name = true ↔ ∃ tool ∈ listing.tools, tool.name = name := by
  simp [Listing.has]

theorem has_false : listing.has name = false ↔ name ∉ listing.tools.map Tool.name := by
  rw [← Bool.not_eq_true, has_exact, List.mem_map]

theorem add_nameless (nothing : Tool.ofDescriptor? raw = none) :
    listing.add raw = {listing with warnings := listing.warnings ++ [.nameless]} := by
  rw [Listing.add, nothing]

theorem add_known (made : Tool.ofDescriptor? raw = some tool) (known : listing.has tool.name = true) :
    listing.add raw = {listing with warnings := listing.warnings ++ [.duplicate tool.name]} := by
  simp only [Listing.add, made, known, if_true]

theorem add_new (made : Tool.ofDescriptor? raw = some tool) (new : listing.has tool.name = false) :
    listing.add raw = {listing with tools := listing.tools ++ [tool]} := by
  simp only [Listing.add, made, new, Bool.false_eq_true, if_false]

theorem list_concat (raws : List Json) (raw : Json) : list (raws ++ [raw]) = (list raws).add raw := by
  rw [list, List.foldl_append]
  rfl

theorem has_add : (listing.add raw).has name = true ↔ listing.has name = true ∨ Tool.Names raw name := by
  cases made : Tool.ofDescriptor? raw with
  | none =>
    rw [add_nameless made]
    exact (or_iff_left (Tool.nameless_exact.mp made name)).symm
  | some tool =>
    have named := Tool.ofDescriptor?_names made
    cases known : listing.has tool.name with
    | true =>
      rw [add_known made known]
      refine ⟨.inl, fun either => either.elim id fun also => ?_⟩
      rw [Tool.names_unique named also]
      exact known
    | false =>
      rw [add_new made known, has_exact, has_exact]
      constructor
      · rintro ⟨kept, present, rfl⟩
        rcases List.mem_append.mp present with old | new
        · exact .inl ⟨kept, old, rfl⟩
        · rw [List.mem_singleton.mp new]
          exact .inr named
      · rintro (⟨kept, present, rfl⟩ | also)
        · exact ⟨kept, List.mem_append_left _ present, rfl⟩
        · refine ⟨tool, ?_, (Tool.names_unique named also).symm⟩
          exact List.mem_append_right _ List.mem_cons_self

theorem has_list : (list raws).has name = true ↔ ∃ raw ∈ raws, Tool.Names raw name := by
  induction raws using List.reverseRecOn with
  | nil => simp [list, Listing.empty, Listing.has]
  | append_singleton front raw ih =>
    rw [list_concat, has_add, ih]
    simp [or_and_right, exists_or]

-- One description is entered as it is judged by the ones that the listing was made of.
theorem add_judged (held : ∀ name, listing.has name = true ↔ ∃ other ∈ earlier, Tool.Names other name)
    (shown : listing = .ofEntries entries) (raw : Json) :
    ∃ entry, Judged earlier raw entry ∧ listing.add raw = .ofEntries (entries ++ [entry]) := by
  subst shown
  cases made : Tool.ofDescriptor? raw with
  | none =>
    refine ⟨_, .unnamed (Tool.nameless_exact.mp made), ?_⟩
    rw [add_nameless made]
    simp [Listing.ofEntries, Entry.tool?, Entry.warning?]
  | some tool =>
    cases known : (Listing.ofEntries entries).has tool.name with
    | true =>
      refine ⟨_, .again (Tool.ofDescriptor?_names made) ((held tool.name).mp known), ?_⟩
      rw [add_known made known]
      simp [Listing.ofEntries, Entry.tool?, Entry.warning?]
    | false =>
      refine ⟨.kept tool, .first made fun other present named => ?_, ?_⟩
      · have there := (held tool.name).mpr ⟨other, present, named⟩
        cases known.symm.trans there
      · rw [add_new made known]
        simp [Listing.ofEntries, Entry.tool?, Entry.warning?]

theorem ledger_list (raws : List Json) : ∃ entries, Ledger raws entries ∧ list raws = .ofEntries entries := by
  induction raws using List.reverseRecOn with
  | nil => exact ⟨[], .empty, rfl⟩
  | append_singleton front raw ih =>
    obtain ⟨entries, before, shown⟩ := ih
    obtain ⟨entry, judged, after⟩ := add_judged (fun _ => has_list) shown raw
    exact ⟨entries ++ [entry], .next before judged, (list_concat front raw).trans after⟩

theorem Ledger.length (ledger : Ledger raws entries) : entries.length = raws.length := by
  induction ledger with
  | empty => rfl
  | next _ _ ih => rw [List.length_append, List.length_append, ih]; rfl

theorem entries_counted (entries : List Entry) :
    (Listing.ofEntries entries).tools.length + (Listing.ofEntries entries).warnings.length = entries.length := by
  induction entries with
  | nil => rfl
  | cons entry rest ih =>
    simp only [Listing.ofEntries] at ih
    cases entry with
    | kept tool =>
      simp only [Listing.ofEntries, List.filterMap_cons, Entry.tool?, Entry.warning?, List.length_cons]
      omega
    | skipped warning =>
      simp only [Listing.ofEntries, List.filterMap_cons, Entry.tool?, Entry.warning?, List.length_cons]
      omega

theorem add_distinct (distinct : (listing.tools.map Tool.name).Nodup) (raw : Json) :
    ((listing.add raw).tools.map Tool.name).Nodup := by
  cases made : Tool.ofDescriptor? raw with
  | none =>
    rw [add_nameless made]
    exact distinct
  | some tool =>
    cases known : listing.has tool.name with
    | true =>
      rw [add_known made known]
      exact distinct
    | false =>
      rw [add_new made known, List.map_append, List.map_singleton, ← List.concat_eq_append]
      exact distinct.concat (has_false.mp known)

theorem list_distinct (raws : List Json) : ((list raws).tools.map Tool.name).Nodup := by
  induction raws using List.reverseRecOn with
  | nil => exact List.nodup_nil
  | append_singleton front raw ih =>
    rw [list_concat]
    exact add_distinct ih raw

-- The tools alone decide what becomes of the descriptions that follow.
theorem add_tools (same : listing.tools = other.tools) (raw : Json) :
    (listing.add raw).tools = (other.add raw).tools := by
  have holds (name : String) : listing.has name = other.has name := by rw [Listing.has, Listing.has, same]
  cases made : Tool.ofDescriptor? raw with
  | none =>
    rw [add_nameless made, add_nameless made]
    exact same
  | some tool =>
    cases known : other.has tool.name with
    | true =>
      rw [add_known made known, add_known made ((holds tool.name).trans known)]
      exact same
    | false => rw [add_new made known, add_new made ((holds tool.name).trans known), same]

theorem foldl_tools (same : listing.tools = other.tools) (raws : List Json) :
    (raws.foldl Listing.add listing).tools = (raws.foldl Listing.add other).tools := by
  induction raws generalizing listing other with
  | nil => exact same
  | cons raw rest ih => exact ih (add_tools same raw)

theorem repeated_ignored {front back : List Json} (named : Tool.Names raw name)
    (known : ∃ other ∈ front, Tool.Names other name) :
    (list (front ++ raw :: back)).tools = (list (front ++ back)).tools := by
  obtain ⟨tool, made⟩ := Tool.names_made named
  have there : (list front).has tool.name = true := by
    rw [Tool.names_unique named (Tool.ofDescriptor?_names made)]
    exact has_list.mpr known
  have passed : ((list front).add raw).tools = (list front).tools := by rw [add_known made there]
  rw [list, list, List.foldl_append, List.foldl_append]
  exact foldl_tools passed back

theorem list_documents (tools : List Tool) (named : ∀ tool ∈ tools, tool.name ≠ "" ∧ Text.trim tool.name = tool.name)
    (schemas : ∀ tool ∈ tools, tool.parameters ≠ .null) (distinct : (tools.map Tool.name).Nodup) :
    list (tools.map Tool.document) = ⟨tools, []⟩ := by
  induction tools using List.reverseRecOn with
  | nil => rfl
  | append_singleton front tool ih =>
    have last : tool ∈ front ++ [tool] := List.mem_append_right _ List.mem_cons_self
    have earlier : ∀ t ∈ front, t ∈ front ++ [tool] := fun t present => List.mem_append_left _ present
    rw [List.map_append, List.nodup_append] at distinct
    obtain ⟨before, _, apart⟩ := distinct
    have listed := ih (fun t present => named t (earlier t present)) (fun t present => schemas t (earlier t present)) before
    have read := Tool.ofDescriptor?_document (named tool last).1 (named tool last).2 (schemas tool last)
    have new : (Listing.mk front []).has tool.name = false :=
      has_false.mpr fun present => apart tool.name present tool.name List.mem_cons_self rfl
    rw [List.map_append, List.map_singleton, list_concat, listed, add_new read new]

theorem list_named (present : tool ∈ (list raws).tools) : tool.name ≠ "" ∧ Text.trim tool.name = tool.name := by
  obtain ⟨raw, _, made⟩ := mem_list present
  obtain ⟨nonempty, trimmed, _⟩ := Tool.ofDescriptor?_settled made
  exact ⟨nonempty, trimmed⟩

theorem list_schema (present : tool ∈ (list raws).tools) : tool.parameters ≠ .null := by
  obtain ⟨raw, _, made⟩ := mem_list present
  rw [(Tool.ofDescriptor?_settled made).2.2]
  exact Tool.schemaOf_present raw

end

structure Normalised (raws : List Json) (listing : Listing) : Prop where
  named : ∀ tool ∈ listing.tools, tool.name ≠ "" ∧ Text.Trimmed tool.name.toList
  distinct : (listing.tools.map Tool.name).Nodup
  judged : ∃ entries, Ledger raws entries ∧ listing = .ofEntries entries
  complete : ∀ raw ∈ raws, ∀ name, Tool.Names raw name → ∃ tool ∈ listing.tools, tool.name = name
  counted : listing.tools.length + listing.warnings.countP (· ≠ .nameless) + listing.warnings.countP (· = .nameless) =
    raws.length

theorem normalised_list (raws : List Json) : Normalised raws (list raws) where
  named tool present := by
    obtain ⟨nonempty, trimmed⟩ := list_named present
    refine ⟨nonempty, ?_⟩
    rw [← trimmed, Text.trim, String.toList_ofList]
    exact Text.trimmed_trimChars _
  distinct := list_distinct raws
  judged := ledger_list raws
  complete raw present name named := has_exact.mp (has_list.mpr ⟨raw, present, named⟩)
  counted := by
    obtain ⟨entries, ledger, shown⟩ := ledger_list raws
    have whole := entries_counted entries
    have parted := List.length_eq_countP_add_countP (l := (list raws).warnings) (· ≠ Warning.nameless)
    simp only [ne_eq, decide_not, Bool.not_eq_true', decide_eq_false_iff_not, not_not] at parted ⊢
    rw [← shown, ledger.length] at whole
    omega

-- Every listing is normalised, a name that comes again changes no tool, and a written catalog is listed as it is.
theorem catalog_normalised (raws : List Json) :
    Normalised raws (list raws) ∧
    (∀ front raw back name, raws = front ++ raw :: back → Tool.Names raw name →
      (∃ other ∈ front, Tool.Names other name) → (list raws).tools = (list (front ++ back)).tools) ∧
    list ((list raws).tools.map Tool.document) = ⟨(list raws).tools, []⟩ := by
  refine ⟨normalised_list raws, ?_, ?_⟩
  · rintro front raw back name rfl named known
    exact repeated_ignored named known
  · exact list_documents _ (fun _ => list_named) (fun _ => list_schema) (list_distinct raws)

theorem catalog_normalised_padded :
    let padded : Json := .object [("name", .text " a ")]
    let again : Json := .object [("description", .text "d"), ("name", .text "a")]
    Tool.Names again "a" ∧ (∃ other ∈ [padded, .whole 3], Tool.Names other "a") ∧
      Normalised [padded, .whole 3, again] (list [padded, .whole 3, again]) ∧
      (list [padded, .whole 3, again]).tools = (list [padded, .whole 3]).tools ∧
      (list [padded, .whole 3, again]).warnings = [.nameless, .duplicate "a"] := by
  intro padded again
  have named : Tool.Names again "a" := ⟨by decide, "a", by cbv, by cbv⟩
  have known : Tool.Names padded "a" := ⟨by decide, " a ", by cbv, by cbv⟩
  have before : ∃ other ∈ [padded, .whole 3], Tool.Names other "a" := ⟨padded, List.mem_cons_self, known⟩
  obtain ⟨normalised, repeated, _⟩ := catalog_normalised [padded, .whole 3, again]
  exact ⟨named, before, normalised, repeated [padded, .whole 3] again [] "a" rfl named before, by cbv⟩

end Catalog

end ToolGateway
