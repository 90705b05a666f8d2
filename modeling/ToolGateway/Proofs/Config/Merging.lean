import ToolGateway.Config.Path

namespace ToolGateway.Config

-- One value at the end of a path.
abbrev Setting := List Step × Value

def Setting.behind (steps : List Step) (setting : Setting) : Setting := (steps ++ setting.1, setting.2)

-- The settings a value is made of: what is no table, and a table without entries, stands for itself.
mutual
def Value.settings : Value → List Setting
  | .table [] => [([], .table [])]
  | .table (entry :: rest) => entrySettings (entry :: rest)
  | value => [([], value)]
def entrySettings : List (String × Value) → List Setting
  | [] => []
  | (key, value) :: rest => value.settings.map (Setting.behind [.child (Text.lower key)]) ++ entrySettings rest
end

-- The steps a key stands for: only the last name of a path is lowered.
def lastLowered : List Step → List Step
  | [] => []
  | [.child name] => [.child (Text.lower name)]
  | step :: rest => step :: lastLowered rest

def keySteps (key : String) : List Step :=
  match Path.parse? key with
  | none => [.child key]
  | some path => .child path.first :: path.steps

def keySettings (key : String) (value : Value) : List Setting :=
  value.settings.map (Setting.behind (lastLowered (keySteps key)))

def sourceSettings (source : Entries) : List Setting := source.flatMap fun (key, value) => keySettings key value

def fieldSteps (path : List String) : List Step := path.map .child

section
variable {α : Type} {read : Value → Option α} {path : List String} {steps : List Step} {name key : String}
  {old : Option Value} {value v : Value} {into root : Entries} {entry : String × Value} {rest : List (String × Value)}
  {source : Entries} {before after : Option (Option α)} {setting : Setting}

-- What a value at a path says to a reader: nothing if it is an empty table, else what is read, if it can be.
def said (read : Value → Option α) : Value → Option (Option α)
  | .table [] => none
  | value => some (read value)

-- What is said at a path, where all that leads to it are tables.
def Says (read : Value → Option α) : List String → Option Value → Option (Option α) → Prop
  | _, none, verdict => verdict = none
  | [], some value, verdict => verdict = said read value
  | name :: path, some value, verdict =>
    ∃ entries, value = .table entries ∧ Says read path (Entries.find? name entries) verdict

-- What one setting says at a path, and what a list of them says: the last that says something counts.
def Setting.verdict (read : Value → Option α) (path : List String) (setting : Setting) : Option (Option α) :=
  if setting.1 = fieldSteps path then said read setting.2
  else if fieldSteps path <+: setting.1 then some none else none

def told (read : Value → Option α) (path : List String) : List Setting → Option (Option α)
  | [] => none
  | setting :: rest => (told read path rest).or (setting.verdict read path)

-- The setting leaves tables on the way to the path: nothing but an empty table, and no position in a list.
def Leads : List String → List Step → Value → Prop
  | [], _, _ => True
  | _ :: _, [], value => value = .table []
  | _ :: _, .item _ :: _, _ => False
  | name :: path, .child key :: steps, value => key = name → Leads path steps value

def Placed (path : List String) (steps : List Step) : Prop := ∃ index, fieldSteps path ++ [.item index] <+: steps

@[simp]
theorem says_none : Says read path none before ↔ before = none := by
  cases path <;> rfl

theorem find?_put (same : key = name) (v : Value) (into : Entries) :
    Entries.find? name (Entries.put key v into) = some v := by
  subst same
  induction into with
  | nil => exact if_pos rfl
  | cons entry rest ih =>
    obtain ⟨k, w⟩ := entry
    by_cases here : key = k
    · simp [Entries.put, Entries.find?, here]
    · simp [Entries.put, Entries.find?, here, ih]

theorem find?_put_other (apart : key ≠ name) (v : Value) (into : Entries) :
    Entries.find? name (Entries.put key v into) = Entries.find? name into := by
  induction into with
  | nil => exact if_neg apart.symm
  | cons entry rest ih =>
    obtain ⟨k, w⟩ := entry
    by_cases here : key = k
    · subst here
      simp [Entries.put, Entries.find?, apart.symm]
    · by_cases there : name = k
      · simp [Entries.put, Entries.find?, here, there]
      · simp [Entries.put, Entries.find?, here, there, ih]

theorem lastLowered_child (key : String) (next : Step) (steps : List Step) :
    lastLowered (.child key :: next :: steps) = .child key :: lastLowered (next :: steps) := rfl

theorem setSteps_child (old value : Value) (key : String) (next : Step) (steps : List Step) :
    old.setSteps value (.child key :: next :: steps) =
      .table (Entries.put key
        (Value.setSteps ((Entries.find? key old.entries).getD Value.nil) value (next :: steps)) old.entries) := rfl

theorem placed_item (index : Int) (steps : List Step) : Placed [] (.item index :: steps) :=
  ⟨index, List.prefix_append _ _⟩

theorem placed_behind : Placed (name :: path) (.child name :: steps) ↔ Placed path steps := by
  simp [Placed, fieldSteps]

theorem setKey_steps (root : Entries) (key : String) (value : Value) :
    Value.table (setKey root key value) = (Value.table root).setSteps value (keySteps key) := by
  rw [setKey, keySteps]
  cases Path.parse? key with
  | none => rfl
  | some path =>
    obtain ⟨first, steps⟩ := path
    cases steps <;> rfl

theorem keySteps_some (key : String) : keySteps key ≠ [] := by
  rw [keySteps]
  split <;> exact List.cons_ne_nil _ _

end

end ToolGateway.Config
