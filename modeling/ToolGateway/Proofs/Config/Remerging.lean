import ToolGateway.Proofs.Config.Regular
namespace ToolGateway.Config

-- The reader does not depend on the order of a table's entries.
def Orderless (read : Value → Option α) : Prop :=
  ∀ ⦃one two⦄, Regular (.table one) → Rearranged one two → read (.table one) = read (.table two)

-- The keys of the files that are read.
def Leveled (library : Library) (files : List (String × String)) (explicit : Option String) : Prop :=
  (∀ first ∈ defaultEntries? library files, Level first) ∧ ∀ named ∈ explicitEntries? library files explicit, Level named

section
variable {α : Type} {read : Value → Option α} {default : α} {name key : String} {c : Char} {pattern new chars : List Char}
  {skip : Nat} {v : Value} {one two root source given into : Entries} {library : Library}
  {files : List (String × String)} {surroundings : Surroundings} {explicit : Option String}

theorem find?_append (name : String) (one two : Entries) :
    Entries.find? name (one ++ two) = (Entries.find? name one).or (Entries.find? name two) := by
  induction one with
  | nil => rfl
  | cons entry rest ih =>
    rw [List.cons_append, Entries.find?, Entries.find?]
    split
    · rfl
    · exact ih

theorem find?_perm (distinct : (one.map Prod.fst).Nodup) (same : one.Perm two) (name : String) :
    Entries.find? name one = Entries.find? name two := by
  have also := (same.map Prod.fst).nodup_iff.mp distinct
  ext v
  constructor
  · exact fun found => find?_distinct also (same.mem_iff.mp (find?_mem found))
  · exact fun found => find?_distinct distinct (same.mem_iff.mpr (find?_mem found))

theorem readOr_rearranged (orderless : Orderless read) (default : α) (name : String) (regular : Regular (.table one))
    (rearranged : Rearranged one two) :
    readOr default read (Entries.find? name one) = readOr default read (Entries.find? name two) := by
  induction rearranged with
  | order same => rw [find?_perm (regular_table.mp regular).1 same]
  | @inside one two before after key within =>
    have same := orderless ((regular_table.mp regular).2.2 (key, .table one) (by simp)) within
    rw [find?_append, find?_append, Entries.find?, Entries.find?]
    cases Entries.find? name before with
    | some v => rfl
    | none =>
      split
      · exact same
      · rfl
  | trans first _ ih again => exact (ih regular).trans (again (regular.rearranged first))

theorem orderless_none (tables : ∀ entries, read (.table entries) = none) : Orderless read :=
  fun one two _ _ => (tables one).trans (tables two).symm

theorem field_rearranged (tables : ∀ entries, read (.table entries) = none) (regular : Regular (.table one))
    (rearranged : Rearranged one two) (default : α) (name : String) :
    readOr default read (Entries.find? name one) = readOr default read (Entries.find? name two) :=
  readOr_rearranged (orderless_none tables) default name regular rearranged

theorem orderless_timeouts : Orderless timeouts? := fun _ _ regular rearranged =>
  field_rearranged (fun _ => rfl) regular rearranged defaultTimeout "request"

theorem orderless_server : Orderless ServerSettings.read? := by
  intro one two regular rearranged
  simp only [ServerSettings.read?, given?, Given.field, Option.bind_eq_bind, Option.bind_some]
  rw [field_rearranged (fun _ => rfl) regular rearranged, field_rearranged (fun _ => rfl) regular rearranged]

theorem orderless_backend : Orderless BackendSettings.read? := by
  intro one two regular rearranged
  simp only [BackendSettings.read?, given?, Given.field, Option.bind_eq_bind, Option.bind_some]
  rw [field_rearranged (fun _ => rfl) regular rearranged, field_rearranged (fun _ => rfl) regular rearranged]

theorem orderless_llm : Orderless LlmSettings.read? := by
  intro one two regular rearranged
  have timeouts := readOr_rearranged orderless_timeouts defaultTimeout "timeouts" regular rearranged
  simp only [LlmSettings.read?, given?, Given.field, Given.mayLack, Option.bind_eq_bind, Option.bind_some]
  rw [field_rearranged (fun _ => rfl) regular rearranged, field_rearranged (fun _ => rfl) regular rearranged,
    field_rearranged (fun _ => rfl) regular rearranged, field_rearranged (fun _ => rfl) regular rearranged, timeouts]

theorem settings_rearranged (regular : Regular (.table one)) (rearranged : Rearranged one two) :
    Settings.read? one = Settings.read? two := by
  have server := readOr_rearranged orderless_server .default "server" regular rearranged
  have backend := readOr_rearranged orderless_backend .default "backend" regular rearranged
  have llm := readOr_rearranged orderless_llm .default "llm" regular rearranged
  simp only [Settings.read?, server, backend, llm]

theorem Level.arranged (level : Level source) (library : Library) (place : Source) :
    Level (library.arranged place source) := fun key present =>
  level key ((rearranged_keys (library.unordered place source)).mem_iff.mpr present)

theorem keys_collect (present : key ∈ (Entries.collect given).map Prod.fst) : key ∈ given.map Prod.fst := by
  have every : ∀ (given into : Entries),
      key ∈ (given.foldl (fun entries entry => Entries.put entry.1 entry.2 entries) into).map Prod.fst →
        key ∈ given.map Prod.fst ∨ key ∈ into.map Prod.fst := by
    intro given
    induction given with
    | nil => exact fun _ present => .inr present
    | cons entry rest ih =>
      intro into present
      rcases ih _ present with later | here
      · exact .inl (List.mem_cons_of_mem _ later)
      · rcases keys_put here with rfl | before
        · exact .inl List.mem_cons_self
        · exact .inr before
  exact (every given [] present).resolve_right fun none_ => nomatch none_

theorem replaceFrom_chars (inside : c ∈ Text.replaceFrom pattern new skip chars) : c ∈ new ∨ c ∈ chars := by
  fun_induction Text.replaceFrom pattern new skip chars with
  | case1 => cases inside
  | case2 _ _ _ ih => exact (ih inside).imp_right (List.mem_cons_of_mem _)
  | case3 d rest _ ih =>
    rcases List.mem_append.mp inside with here | there
    · exact .inl here
    · exact (ih there).imp_right (List.mem_cons_of_mem _)
  | case4 d rest _ ih =>
    rcases List.mem_cons.mp inside with rfl | there
    · exact .inr List.mem_cons_self
    · exact (ih there).imp_right (List.mem_cons_of_mem _)

theorem keyOf?_small (known : keyOf? name = some key) : ∀ c ∈ key.toList, Text.lowerChar c = [c] := by
  obtain ⟨rest, dropped, rfl⟩ := Option.map_eq_some_iff.mp known
  rw [String.toList_ofList]
  intro c inside
  rcases replaceFrom_chars inside with point | there
  · obtain rfl := List.mem_singleton.mp point
    exact Text.lowerChar_ascii (by decide)
  · apply (Text.lowers_lowerChars name.toList).small
    unfold Text.dropStart? at dropped
    split at dropped
    · cases dropped
      exact List.mem_of_mem_drop there
    · cases dropped

-- The keys of variables are in lower case.
theorem level_environment (environment : List (String × String)) : Level (variableEntries environment) := by
  intro key present
  obtain ⟨entry, there, rfl⟩ := List.mem_map.mp (keys_collect present)
  obtain ⟨variable_, -, made⟩ := List.mem_filterMap.mp there
  obtain ⟨key, known, rfl⟩ := Option.map_eq_some_iff.mp made
  have small := keyOf?_small known
  rw [Text.lower_small small, lastLowered_small fun name child => keySteps_small small child]

theorem leveled_of {first named : Entries} (lowest : defaultEntries? library files = some first)
    (middle : explicitEntries? library files explicit = some named) (level : Level first ∧ Level named) :
    Leveled library files explicit := by
  constructor
  · intro source given
    cases lowest.symm.trans given
    exact level.1
  · intro source given
    cases middle.symm.trans given
    exact level.2

theorem leveled_unfiled (library : Library) : Leveled library [] none := by
  have empty : Level [] := fun _ inside => nomatch inside
  exact leveled_of rfl rfl ⟨empty, empty⟩

theorem orderly_none : Orderly [] := ⟨regular_none, fun _ inside => nomatch inside⟩

theorem merged_orderly (level : Leveled library surroundings.files explicit)
    (merged : merged? library surroundings explicit = some root) : Orderly root := by
  obtain ⟨first, lowest, more⟩ := Option.bind_eq_some_iff.mp merged
  obtain ⟨named, middle, same⟩ := Option.bind_eq_some_iff.mp more
  cases same
  have one := orderly_none.setAll ((level.1 first lowest).arranged library .first)
  have two := one.setAll ((level.2 named middle).arranged library .named)
  exact two.setAll ((level_environment surroundings.environment).arranged library .environment)

-- Merging again changes nothing that is read.
theorem load?_merged (level : Leveled library surroundings.files explicit) :
    load? library surroundings explicit = (merged? library surroundings explicit).bind Settings.read? := by
  rw [load?]
  cases merged : merged? library surroundings explicit with
  | none => rfl
  | some root =>
    have orderly := merged_orderly level merged
    exact (settings_rearranged orderly.regular (library.again_rearranged orderly)).symm

end

end ToolGateway.Config
