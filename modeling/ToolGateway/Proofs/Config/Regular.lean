import ToolGateway.Config.Load
import ToolGateway.Proofs.Config.Library
import ToolGateway.Proofs.Text.LowerCase
namespace ToolGateway.Config

-- In lower case each key spells the path it stands for. Any other, such as one with a capital letter before a point,
-- goes by a name of its own until all sources are merged.
def Level (source : Entries) : Prop :=
  ∀ key ∈ source.map Prod.fst, keySteps (Text.lower key) = lastLowered (keySteps key)

-- Tables with each key once and in lower case, all the way down.
inductive Regular : Value → Prop where
  | table {entries : Entries} (distinct : (entries.map Prod.fst).Nodup)
      (small : ∀ key ∈ entries.map Prod.fst, Text.lower key = key) (inside : ∀ entry ∈ entries, Regular entry.2) :
      Regular (.table entries)
  | plain {v : Value} (plain : ∀ entries, v ≠ .table entries) : Regular v

structure Orderly (root : Entries) : Prop where
  regular : Regular (.table root)
  named : ∀ key ∈ root.map Prod.fst, keySteps key = [.child key]

section
variable {key name first : String} {c : Char} {chars : List Char} {count : Nat} {step : Step} {steps : List Step}
  {v value : Value} {entry : String × Value} {into one two root source : Entries}

theorem steps?_names (read : Path.steps? count chars = some steps) (child : .child name ∈ steps) :
    ∀ c ∈ name.toList, c ∈ chars := by
  fun_induction Path.steps? count chars generalizing steps with
  | case1 =>
    cases read
    cases child
  | case2 => cases read
  | case3 => cases read
  | case4 count rest word _ =>
    rename_i ih
    obtain ⟨later, further, rfl⟩ := Option.map_eq_some_iff.mp read
    intro c inside
    apply List.mem_cons_of_mem
    rcases List.mem_cons.mp child with here | there
    · cases here
      rw [String.toList_ofList] at inside
      exact (List.takeWhile_prefix _).subset inside
    · exact (List.dropWhile_suffix _).subset (ih further there c inside)
  | case5 => cases read
  | case6 count rest _ after behind ih =>
    obtain ⟨index, -, more⟩ := Option.bind_eq_some_iff.mp read
    obtain ⟨later, further, same⟩ := Option.bind_eq_some_iff.mp more
    cases same
    have there := (List.mem_cons.mp child).resolve_left (by simp)
    have suffix : after <:+ rest := (List.suffix_cons _ _).trans (behind ▸ List.dropWhile_suffix _)
    exact fun c inside => List.mem_cons_of_mem _ (suffix.subset (ih further there c inside))
  | case7 => cases read

theorem parse?_named (full : chars ≠ []) (named : ∀ c ∈ chars, Path.isNameChar c = true) :
    Path.parse? (String.ofList chars) = some ⟨String.ofList chars, []⟩ := by
  have whole : chars.takeWhile Path.isNameChar = chars := List.takeWhile_eq_self_iff.mpr named
  have end_ : chars.dropWhile Path.isNameChar = [] := List.dropWhile_eq_nil_iff.mpr named
  simp only [Path.parse?, String.toList_ofList, whole, end_]
  rw [if_neg (by simpa using full)]
  cases chars with
  | nil => exact absurd rfl full
  | cons c rest => rfl

-- A key that is no path is one name. The names of one that is a path are parts of it.
theorem keySteps_cases (key : String) : keySteps key = [.child key] ∨
    ∃ chars steps count, keySteps key = .child (String.ofList chars) :: steps ∧ chars ≠ [] ∧
      chars = key.toList.takeWhile Path.isNameChar ∧
      Path.steps? count (key.toList.dropWhile Path.isNameChar) = some steps := by
  rw [keySteps]
  cases parsed : Path.parse? key with
  | none => exact .inl rfl
  | some path =>
    right
    simp only [Path.parse?] at parsed
    split at parsed
    · cases parsed
    · next full =>
      obtain ⟨steps, read, rfl⟩ := Option.map_eq_some_iff.mp parsed
      exact ⟨_, steps, _, rfl, by simpa using full, rfl, read⟩

theorem keySteps_chars (child : .child name ∈ keySteps key) : ∀ c ∈ name.toList, c ∈ key.toList := by
  rcases keySteps_cases key with single | ⟨chars, steps, count, split, -, rfl, read⟩
  · rw [single] at child
    cases List.mem_singleton.mp child
    exact fun _ inside => inside
  · rw [split] at child
    intro c inside
    rcases List.mem_cons.mp child with here | there
    · cases here
      rw [String.toList_ofList] at inside
      exact (List.takeWhile_prefix _).subset inside
    · exact (List.dropWhile_suffix _).subset (steps?_names read there c inside)

theorem keySteps_first (starts : keySteps key = .child first :: steps) : keySteps first = [.child first] := by
  rcases keySteps_cases key with single | ⟨chars, steps, count, split, full, named, -⟩
  · cases starts.symm.trans single
    exact single
  · cases starts.symm.trans split
    have every : ∀ c ∈ chars, Path.isNameChar c = true := by
      rw [named]
      exact fun c inside => List.mem_takeWhile_imp inside
    rw [keySteps, parse?_named full every]

theorem keySteps_small (small : ∀ c ∈ key.toList, Text.lowerChar c = [c]) (child : .child name ∈ keySteps key) :
    Text.lower name = name :=
  Text.lower_small fun c inside => small c (keySteps_chars child c inside)

theorem lastLowered_small (small : ∀ name, .child name ∈ steps → Text.lower name = name) :
    lastLowered steps = steps := by
  induction steps with
  | nil => rfl
  | cons step rest ih =>
    have later := ih fun name inside => small name (List.mem_cons_of_mem _ inside)
    cases step with
    | item index =>
      cases rest with
      | nil => rfl
      | cons next rest => exact congrArg _ later
    | child name =>
      cases rest with
      | nil => rw [lastLowered, small name List.mem_cons_self]
      | cons next rest => exact congrArg _ later

theorem mem_put (inside : entry ∈ Entries.put key v into) : entry = (key, v) ∨ entry ∈ into := by
  induction into with
  | nil => exact .inl (List.mem_singleton.mp inside)
  | cons first rest ih =>
    rw [Entries.put] at inside
    split at inside
    · exact (List.mem_cons.mp inside).imp_right (List.mem_cons_of_mem _)
    · rcases List.mem_cons.mp inside with rfl | there
      · exact .inr List.mem_cons_self
      · exact (ih there).imp_right (List.mem_cons_of_mem _)

theorem keys_put (present : name ∈ (Entries.put key v into).map Prod.fst) : name = key ∨ name ∈ into.map Prod.fst := by
  obtain ⟨entry, there, rfl⟩ := List.mem_map.mp present
  rcases mem_put there with rfl | there
  · exact .inl rfl
  · exact .inr (List.mem_map_of_mem there)

theorem put_fresh (fresh : key ∉ into.map Prod.fst) : Entries.put key v into = into ++ [(key, v)] := by
  induction into with
  | nil => rfl
  | cons first rest ih =>
    rw [List.map_cons, List.mem_cons, not_or] at fresh
    rw [Entries.put, if_neg fresh.1, ih fresh.2]
    rfl

theorem put_keys (present : key ∈ into.map Prod.fst) : (Entries.put key v into).map Prod.fst = into.map Prod.fst := by
  induction into with
  | nil => cases present
  | cons first rest ih =>
    rw [Entries.put]
    split
    · next same => rw [List.map_cons, List.map_cons, same]
    · next other => rw [List.map_cons, List.map_cons, ih ((List.mem_cons.mp present).resolve_left other)]

theorem put_distinct (distinct : (into.map Prod.fst).Nodup) : ((Entries.put key v into).map Prod.fst).Nodup := by
  by_cases present : key ∈ into.map Prod.fst
  · rwa [put_keys present]
  · rw [put_fresh present, List.map_append]
    simpa using distinct.concat present

theorem find?_mem (found : Entries.find? key into = some v) : (key, v) ∈ into := by
  induction into with
  | nil => cases found
  | cons first rest ih =>
    rw [Entries.find?] at found
    split at found
    · next same =>
      cases found
      rw [same]
      exact List.mem_cons_self
    · exact List.mem_cons_of_mem _ (ih found)

theorem find?_fresh (fresh : key ∉ into.map Prod.fst) : Entries.find? key into = none := by
  cases found : Entries.find? key into with
  | none => rfl
  | some v => exact absurd (List.mem_map_of_mem (find?_mem found)) fresh

theorem find?_distinct (distinct : (into.map Prod.fst).Nodup) (inside : (key, v) ∈ into) :
    Entries.find? key into = some v := by
  induction into with
  | nil => cases inside
  | cons first rest ih =>
    obtain ⟨fresh, distinct⟩ := List.nodup_cons.mp distinct
    rw [Entries.find?]
    rcases List.mem_cons.mp inside with rfl | there
    · exact if_pos rfl
    · have other : key ≠ first.1 := by
        rintro rfl
        exact fresh (List.mem_map.mpr ⟨_, there, rfl⟩)
      rw [if_neg other, ih distinct there]

theorem regular_table : Regular (.table into) ↔ (into.map Prod.fst).Nodup ∧
    (∀ key ∈ into.map Prod.fst, Text.lower key = key) ∧ ∀ entry ∈ into, Regular entry.2 := by
  constructor
  · intro regular
    cases regular with
    | table distinct small inside => exact ⟨distinct, small, inside⟩
    | plain plain => exact absurd rfl (plain into)
  · rintro ⟨distinct, small, inside⟩
    exact .table distinct small inside

theorem regular_none : Regular (.table []) := .table .nil (fun _ inside => nomatch inside) fun _ inside => nomatch inside

theorem Regular.entries (regular : Regular v) : Regular (.table v.entries) := by
  cases v with
  | table entries => exact regular
  | _ => exact regular_none

theorem Regular.find? (regular : Regular (.table into)) (found : v ∈ Entries.find? key into) : Regular v :=
  (regular_table.mp regular).2.2 _ (find?_mem found)

theorem Regular.put (regular : Regular (.table into)) (small : Text.lower key = key) (value : Regular v) :
    Regular (.table (Entries.put key v into)) := by
  obtain ⟨distinct, smalls, inside⟩ := regular_table.mp regular
  refine .table (put_distinct distinct) ?_ ?_
  · intro name present
    rcases keys_put present with rfl | there
    · exact small
    · exact smalls name there
  · intro entry present
    rcases mem_put present with rfl | there
    · exact value
    · exact inside entry there

-- Merging makes what comes in regular, whatever it is.
mutual
theorem regular_merge {old : Option Value} (regular : ∀ v ∈ old, Regular v) : (value : Value) →
    Regular (value.merge old)
  | .table [] => by
    cases old with
    | none => exact regular_none
    | some v => exact regular v rfl
  | .table (entry :: rest) => by
    have start : Regular (.table (old.getD Value.nil).entries) := by
      cases old with
      | none => exact regular_none
      | some v => exact (regular v rfl).entries
    exact regular_mergeEntries start (entry :: rest)
  | .nil | .bool _ | .int _ | .float _ | .text _ | .list _ => .plain fun _ => by simp [Value.merge]
theorem regular_mergeEntries {into : Entries} (regular : Regular (.table into)) : (entries : Entries) →
    Regular (.table (Value.mergeEntries into entries))
  | [] => regular
  | (key, value) :: rest => by
    have merged := regular_merge (fun v => @Regular.find? (Text.lower key) v into regular) value
    exact regular_mergeEntries (regular.put (Text.lower_lower key) merged) rest
end

theorem Regular.setSteps (regular : Regular v) (some_ : steps ≠ [])
    (small : ∀ name, .child name ∈ lastLowered steps → Text.lower name = name) : Regular (v.setSteps value steps) := by
  induction steps generalizing v with
  | nil => exact absurd rfl some_
  | cons step rest ih =>
    cases step with
    | item index =>
      apply Regular.plain
      intro entries
      simp [Value.setSteps]
    | child name =>
      cases rest with
      | nil => exact regular_mergeEntries regular.entries _
      | cons next rest =>
        rw [lastLowered_child] at small
        rw [setSteps_child]
        apply regular.entries.put (small name List.mem_cons_self)
        have inner : Regular ((Entries.find? name v.entries).getD Value.nil) := by
          cases found : Entries.find? name v.entries with
          | none => exact .plain fun _ => by simp
          | some inner => exact regular.entries.find? found
        exact ih inner (List.cons_ne_nil _ _) fun name inside => small name (List.mem_cons_of_mem _ inside)

theorem level_small (level : keySteps (Text.lower key) = lastLowered (keySteps key))
    (child : .child name ∈ lastLowered (keySteps key)) : Text.lower name = name :=
  keySteps_small (Text.small_lower key) (level ▸ child)

-- Setting a key puts one entry, under the first name of its path.
theorem setKey_put (root : Entries) (key : String) (value : Value) : ∃ name rest v,
    lastLowered (keySteps key) = .child name :: rest ∧ setKey root key value = Entries.put name v root := by
  rw [setKey, keySteps]
  cases Path.parse? key with
  | none => exact ⟨_, [], _, rfl, rfl⟩
  | some path =>
    obtain ⟨first, steps⟩ := path
    cases steps with
    | nil => exact ⟨_, [], _, rfl, rfl⟩
    | cons next rest => exact ⟨first, _, _, rfl, rfl⟩

theorem Orderly.setKey (orderly : Orderly root) (level : keySteps (Text.lower key) = lastLowered (keySteps key))
    (value : Value) : Orderly (Config.setKey root key value) where
  regular := by
    rw [setKey_steps]
    exact orderly.regular.setSteps (keySteps_some key) fun name child => level_small level child
  named := by
    obtain ⟨name, rest, v, split, put⟩ := setKey_put root key value
    rw [put]
    intro other present
    rcases keys_put present with rfl | there
    · exact keySteps_first (level.trans split)
    · exact orderly.named other there

theorem Orderly.setAll (orderly : Orderly root) (level : Level source) : Orderly (Config.setAll root source) := by
  induction source generalizing root with
  | nil => exact orderly
  | cons entry rest ih =>
    obtain ⟨first, later⟩ := List.forall_mem_cons.mp level
    exact ih (orderly.setKey first entry.2) later

theorem mergeEntries_fixed (fixed : ∀ entry ∈ source, entry.2.merge none = entry.2)
    (small : ∀ key ∈ source.map Prod.fst, Text.lower key = key) (distinct : ((into ++ source).map Prod.fst).Nodup) :
    Value.mergeEntries into source = into ++ source := by
  induction source generalizing into with
  | nil => exact (List.append_nil _).symm
  | cons entry rest ih =>
    obtain ⟨key, value⟩ := entry
    obtain ⟨same, fixed⟩ := List.forall_mem_cons.mp fixed
    obtain ⟨first, small⟩ := List.forall_mem_cons.mp small
    have fresh : key ∉ into.map Prod.fst := by
      intro present
      rw [List.map_append] at distinct
      exact (List.nodup_append.mp distinct).2.2 key present key List.mem_cons_self rfl
    have split : into ++ (key, value) :: rest = (into ++ [(key, value)]) ++ rest := by simp
    rw [Value.mergeEntries, first, find?_fresh fresh, same, put_fresh fresh, split]
    rw [split] at distinct
    exact ih fixed small distinct

theorem Regular.fixed (regular : Regular v) : v.merge none = v := by
  induction regular with
  | @table entries distinct small _ ih =>
    cases entries with
    | nil => rfl
    | cons entry rest => exact congrArg Value.table (mergeEntries_fixed ih small distinct)
  | @plain v plain =>
    cases v with
    | table entries => exact absurd rfl (plain entries)
    | _ => rfl

theorem setAll_named (named : ∀ key ∈ source.map Prod.fst, keySteps key = [.child key]) (into : Entries) :
    setAll into source = Value.mergeEntries into source := by
  induction source generalizing into with
  | nil => rfl
  | cons entry rest ih =>
    obtain ⟨first, named⟩ := List.forall_mem_cons.mp named
    have set : Value.table (setKey into entry.1 entry.2) = .table (Value.mergeEntries into [entry]) := by
      rw [setKey_steps, first]
      rfl
    have one : setAll into (entry :: rest) = setAll (setKey into entry.1 entry.2) rest := rfl
    rw [one, Value.table.inj set, ih named]
    rfl

theorem Orderly.fixed (orderly : Orderly root) : Config.setAll [] root = root := by
  obtain ⟨distinct, small, inside⟩ := regular_table.mp orderly.regular
  rw [setAll_named orderly.named]
  exact mergeEntries_fixed (fun entry there => (inside entry there).fixed) small distinct

theorem rearranged_keys (rearranged : Rearranged one two) : (one.map Prod.fst).Perm (two.map Prod.fst) := by
  induction rearranged with
  | order same => exact same.map _
  | inside => simp
  | trans _ _ ih again => exact ih.trans again

theorem Regular.rearranged (regular : Regular (.table one)) (rearranged : Rearranged one two) :
    Regular (.table two) := by
  induction rearranged with
  | @order one two same =>
    obtain ⟨distinct, small, inside⟩ := regular_table.mp regular
    have keys := same.map Prod.fst
    exact .table (keys.nodup_iff.mp distinct) (fun key present => small key (keys.mem_iff.mpr present))
      fun entry present => inside entry (same.mem_iff.mpr present)
  | @inside one two before after key within ih =>
    obtain ⟨distinct, small, inside⟩ := regular_table.mp regular
    have keys : (before ++ (key, Value.table two) :: after).map Prod.fst =
        (before ++ (key, Value.table one) :: after).map Prod.fst := by simp
    rw [← keys] at distinct small
    refine .table distinct small ?_
    have inner := ih (inside (key, .table one) (by simp))
    simp only [List.forall_mem_append, List.forall_mem_cons] at inside ⊢
    exact ⟨inside.1, inner, inside.2.2⟩
  | trans _ _ ih again => exact again (ih regular)

theorem Orderly.rearranged (orderly : Orderly one) (rearranged : Rearranged one two) : Orderly two where
  regular := orderly.regular.rearranged rearranged
  named key present := orderly.named key ((rearranged_keys rearranged).mem_iff.mpr present)

theorem Library.again_rearranged (library : Library) (orderly : Orderly root) : Rearranged root (library.again root) := by
  have rearranged := library.unordered .merged root
  rw [Library.again, (orderly.rearranged rearranged).fixed]
  exact rearranged

end

end ToolGateway.Config
