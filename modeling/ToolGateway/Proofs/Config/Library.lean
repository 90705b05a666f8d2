import ToolGateway.Config.Load
import ToolGateway.Proofs.Config.Merging
namespace ToolGateway.Config

section
variable {one two entries source : Entries} {key : String} {v : Value}

theorem rearranged_empty (rearranged : Rearranged one two) : one = [] ↔ two = [] := by
  induction rearranged with
  | order same => exact ⟨fun empty => (empty ▸ same).nil_eq.symm, fun empty => (empty ▸ same).eq_nil⟩
  | inside => simp
  | trans _ _ ih again => exact ih.trans again

theorem rearranged_single (plain : ∀ inner, v ≠ .table inner) (rearranged : Rearranged one two) :
    one = [(key, v)] → two = [(key, v)] := by
  induction rearranged with
  | order same =>
    rintro rfl
    exact (List.singleton_perm.mp same).symm
  | @inside one two before after key within ih =>
    intro single
    have only : (key, Value.table one) ∈ before ++ (key, .table one) :: after := by simp
    rw [single, List.mem_singleton] at only
    exact absurd (congrArg Prod.snd only).symm (plain one)
  | trans _ _ ih again => exact again ∘ ih

variable (library : Library) (place : Source)

theorem Library.arranged_nil : library.arranged place [] = [] :=
  (rearranged_empty (library.unordered place [])).mp rfl

theorem Library.arranged_single (plain : ∀ inner, v ≠ .table inner) :
    library.arranged place [(key, v)] = [(key, v)] :=
  rearranged_single plain (library.unordered place _) rfl

end

-- The first default name whose TOML file exists.
def First (files : List (String × String)) (name : String) : Prop :=
  ∃ earlier later, defaultNames = earlier ++ name :: later ∧
    (∀ other ∈ earlier, files.lookup (other ++ ".toml") = none) ∧ (files.lookup (name ++ ".toml")).isSome

def Library.Beside (library : Library) (files : List (String × String)) (name : String) : Prop :=
  ∃ ext, ext ≠ "toml" ∧ (library.formats.lookup ext).isSome ∧ (files.lookup (name ++ "." ++ ext)).isSome

-- The first default file that exists. A file of its name without the extension makes it count as empty. Where files of
-- its name in other formats stand beside it, one of them all is read.
inductive FirstDefault (library : Library) (files : List (String × String)) : Entries → Prop where
  | missing (absent : ∀ name ∈ defaultNames, files.lookup (name ++ ".toml") = none) : FirstDefault library files []
  | hidden {name : String} (first : First files name) (bare : (files.lookup name).isSome) :
      FirstDefault library files []
  | read {name text : String} {entries : Entries} (first : First files name) (unhidden : files.lookup name = none)
      (alone : ¬ library.Beside files name) (there : files.lookup (name ++ ".toml") = some text)
      (content : Toml.document? (dropMark text) = some entries) : FirstDefault library files entries
  | beside {name ext text : String} {reader : Reader} {entries : Entries} (first : First files name)
      (unhidden : files.lookup name = none) (others : library.Beside files name)
      (known : library.formats.lookup ext = some reader) (there : files.lookup (name ++ "." ++ ext) = some text)
      (content : reader (dropMark text) = some entries) : FirstDefault library files entries

section
variable {library : Library} {files other : List (String × String)} {name path text ext : String} {entries : Entries}
  {explicit : Option String}

theorem first_exact : First files name ↔
    (defaultNames.find? fun name => (files.lookup (name ++ ".toml")).isSome) = some name := by
  rw [List.find?_eq_some_iff_append]
  constructor
  · rintro ⟨earlier, later, order, absent, there⟩
    exact ⟨there, earlier, later, order, fun other inside => by simp [absent other inside]⟩
  · rintro ⟨there, earlier, later, order, before⟩
    exact ⟨earlier, later, order, fun other inside => by simpa using before other inside, there⟩

theorem first_listed (first : First files name) : name ∈ defaultNames := by
  obtain ⟨earlier, later, order, -⟩ := first
  simp [order]

theorem FirstDefault.alone (lowest : FirstDefault library files entries) (first : First files name)
    (unhidden : files.lookup name = none) (alone : ¬ library.Beside files name)
    (there : files.lookup (name ++ ".toml") = some text) : Toml.document? (dropMark text) = some entries := by
  have same {other : String} (second : First files other) : other = name :=
    Option.some.inj ((first_exact.mp second).symm.trans (first_exact.mp first))
  cases lowest with
  | missing absent => cases (absent name (first_listed first)).symm.trans there
  | hidden second bare =>
    obtain rfl := same second
    rw [unhidden] at bare
    cases bare
  | read second _ _ present content =>
    obtain rfl := same second
    obtain rfl := Option.some.inj (present.symm.trans there)
    exact content
  | beside second _ others =>
    obtain rfl := same second
    exact absurd others alone

end

end ToolGateway.Config
