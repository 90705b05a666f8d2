import ToolGateway.Proofs.Config.Layering

namespace ToolGateway.Config

-- The text that a text field gets from a variable.
inductive Arrives (s : String) : String → Prop where
  | truth {b : Bool} (word : Text.lower s = Value.boolText b) : Arrives s (Value.boolText b)
  | whole {n : Int} (other : ∀ b, Text.lower s ≠ Value.boolText b) (reads : Decimal.readSigned? s.toList = some n) :
      Arrives s (toString n)
  | real {x : Decimal.Floating} (other : ∀ b, Text.lower s ≠ Value.boolText b)
      (fraction : Decimal.readSigned? s.toList = none) (reads : Decimal.readFloating? s.toList = some x) :
      Arrives s (String.ofList (x.plainText Decimal.double))
  | verbatim (other : ∀ b, Text.lower s ≠ Value.boolText b) (wordy : Decimal.readSigned? s.toList = none)
      (unread : Decimal.readFloating? s.toList = none) : Arrives s s

inductive TextField where
  | bindAddr
  | url
  | baseUrl
  | model
  | apiKey

namespace TextField

def sectionName : TextField → String
  | bindAddr => "server"
  | url => "backend"
  | baseUrl | model | apiKey => "llm"

def name : TextField → String
  | bindAddr => "bind_addr"
  | url => "url"
  | baseUrl => "base_url"
  | model => "model"
  | apiKey => "api_key"

def variableName : TextField → String
  | bindAddr => "TOOLCHAT__SERVER__BIND_ADDR"
  | url => "TOOLCHAT__BACKEND__URL"
  | baseUrl => "TOOLCHAT__LLM__BASE_URL"
  | model => "TOOLCHAT__LLM__MODEL"
  | apiKey => "TOOLCHAT__LLM__API_KEY"

def of : TextField → Settings → Option String
  | bindAddr, s => some s.server.bindAddr
  | url, s => some s.backend.url
  | baseUrl, s => s.llm.baseUrl
  | model, s => some s.llm.model
  | apiKey, s => s.llm.apiKey

def set : TextField → String → Settings → Settings
  | bindAddr, t, s => {s with server := {s.server with bindAddr := t}}
  | url, t, s => {s with backend := {s.backend with url := t}}
  | baseUrl, t, s => {s with llm := {s.llm with baseUrl := some t}}
  | model, t, s => {s with llm := {s.llm with model := t}}
  | apiKey, t, s => {s with llm := {s.llm with apiKey := some t}}

def key (field : TextField) : String := field.sectionName ++ "." ++ field.name

end TextField

section
variable {s t key : String} {v : Value} {root : Entries} {settings : Settings}

theorem bool_words {lowered : String} (yes : lowered ≠ "true") (no : lowered ≠ "false") :
    ∀ b, lowered ≠ Value.boolText b := by
  intro b
  cases b
  · exact no
  · exact yes

theorem guess_cases (key s : String) :
    (∃ b, Text.lower s = Value.boolText b ∧ guess key s = .bool b) ∨
    (∀ b, Text.lower s ≠ Value.boolText b) ∧
      ((∃ n, Decimal.readSigned? s.toList = some n ∧ guess key s = .int n) ∨
        Decimal.readSigned? s.toList = none ∧
          ((∃ x, Decimal.readFloating? s.toList = some x ∧ guess key s = .float x) ∨
            Decimal.readFloating? s.toList = none ∧
              guess key s = if key = listKey then
                .list ((Text.fields ',' s.toList).map fun field => .text (String.ofList field)) else .text s)) := by
  by_cases yes : Text.lower s = "true"
  · exact .inl ⟨true, yes, by simp [guess, yes]⟩
  by_cases no : Text.lower s = "false"
  · exact .inl ⟨false, no, by simp [guess, no]⟩
  refine .inr ⟨bool_words yes no, ?_⟩
  cases whole : Decimal.readSigned? s.toList with
  | some n => exact .inl ⟨n, rfl, by simp [guess, yes, no, whole]⟩
  | none =>
    refine .inr ⟨rfl, ?_⟩
    cases real : Decimal.readFloating? s.toList with
    | some x => exact .inl ⟨x, rfl, by simp [guess, yes, no, whole, real]⟩
    | none => exact .inr ⟨rfl, by simp [guess, yes, no, whole, real]⟩

theorem guess_arrives (other : key ≠ listKey) (s : String) : ∃ t, Arrives s t ∧ (guess key s).text? = some t := by
  rcases guess_cases key s with
    ⟨b, word, taken⟩ | ⟨wordless, ⟨n, whole, taken⟩ | ⟨whole, ⟨x, real, taken⟩ | ⟨real, taken⟩⟩⟩
  · exact ⟨_, .truth word, by rw [taken]; rfl⟩
  · exact ⟨_, .whole wordless whole, by rw [taken]; rfl⟩
  · exact ⟨_, .real wordless whole real, by rw [taken]; rfl⟩
  · exact ⟨_, .verbatim wordless whole real, by rw [taken, if_neg other]; rfl⟩

theorem arrives_unique {u : String} (one : Arrives s t) (two : Arrives s u) : u = t := by
  cases one with
  | truth word =>
    cases two with
    | truth again => exact again.symm.trans word
    | whole other _ | real other _ _ | verbatim other _ _ => exact absurd word (other _)
  | whole other reads =>
    cases two with
    | truth word => exact absurd word (other _)
    | whole _ again =>
      rw [reads] at again
      cases again
      rfl
    | real _ fraction _ | verbatim _ fraction _ =>
      rw [reads] at fraction
      cases fraction
  | real other fraction reads =>
    cases two with
    | truth word => exact absurd word (other _)
    | whole _ whole =>
      rw [fraction] at whole
      cases whole
    | real _ _ again =>
      rw [reads] at again
      cases again
      rfl
    | verbatim _ _ unread =>
      rw [reads] at unread
      cases unread
  | verbatim other wordy unread =>
    cases two with
    | truth word => exact absurd word (other _)
    | whole _ whole =>
      rw [wordy] at whole
      cases whole
    | real _ _ reads =>
      rw [unread] at reads
      cases reads
    | verbatim _ _ _ => rfl

theorem guess_plain (key s : String) (inner : Entries) : guess key s ≠ .table inner := by
  rcases guess_cases key s with ⟨b, -, taken⟩ | ⟨-, ⟨n, -, taken⟩ | ⟨-, ⟨x, -, taken⟩ | ⟨-, taken⟩⟩⟩
  · simp [taken]
  · simp [taken]
  · simp [taken]
  · rw [taken]
    split <;> simp

theorem plain_merged (plain : ∀ inner, v ≠ .table inner) (old : Option Value) : v.merge old = v := by
  cases v with
  | table inner => exact absurd rfl (plain inner)
  | _ => rfl

theorem text_plain (reads : v.text? = some t) (inner : Entries) : v ≠ .table inner := by
  rintro rfl
  cases reads

theorem optional_text (reads : v.text? = some t) : optionalText? v = some (some t) := by
  cases v with
  | nil => cases reads
  | _ => exact congrArg (Option.map some) reads

-- Setting a section's field makes the section a table, whatever stood there, with the value as the field's entry.
theorem setKey_entry {section_ name : String} (parsed : Path.parse? key = some ⟨section_, [.child name]⟩)
    (small : Text.lower name = name) (replaces : ∀ old, v.merge old = v) (root : Entries) :
    setKey root key v = Entries.put section_
      (.table (Entries.put name v ((Entries.find? section_ root).getD Value.nil).entries)) root := by
  rw [setKey, parsed]
  dsimp only
  rw [Value.setSteps, Value.mergeEntries, Value.mergeEntries, small, replaces]

theorem unset_silent {environment : List (String × String)} (unset : ∀ entry ∈ environment, keyOf? entry.1 = none) :
    environment.filterMap entryOf? = [] := by
  apply List.filterMap_eq_nil_iff.mpr
  intro entry present
  simp [entryOf?, unset entry present]

theorem variable_alone {variableName : String} {before after : List (String × String)}
    (known : keyOf? variableName = some key) (s : String) (others : ∀ entry ∈ before ++ after, keyOf? entry.1 = none) :
    variableEntries (before ++ (variableName, s) :: after) = [(key, guess key s)] := by
  have front := unset_silent fun entry present => others entry (List.mem_append_left after present)
  have back := unset_silent fun entry present => others entry (List.mem_append_right before present)
  have set : entryOf? (variableName, s) = some (key, guess key s) := by rw [entryOf?, known, Option.map_some]
  rw [variableEntries, List.filterMap_append, front, List.filterMap_cons_some set, back]
  rfl

end

namespace TextField

variable {s t : String} {v : Value} {settings : Settings}

theorem keyOf?_variable (field : TextField) : keyOf? field.variableName = some field.key := by
  cases field <;> decide +kernel

theorem key_other (field : TextField) : field.key ≠ listKey := by
  cases field <;> decide

theorem parse?_key (field : TextField) :
    Path.parse? field.key = some ⟨field.sectionName, [.child field.name]⟩ := by
  cases field <;> decide +kernel

theorem lower_name (field : TextField) : Text.lower field.name = field.name := by
  cases field <;> decide +kernel

theorem setKey_field (field : TextField) (root : Entries) (reads : v.text? = some t) :
    setKey root field.key v =
      Entries.put field.sectionName
        (.table (Entries.put field.name v ((Entries.find? field.sectionName root).getD Value.nil).entries)) root :=
  setKey_entry field.parse?_key field.lower_name (plain_merged (text_plain reads)) root

theorem variable_alone {before after : List (String × String)} (field : TextField) (s : String)
    (others : ∀ entry ∈ before ++ after, keyOf? entry.1 = none) :
    variableEntries (before ++ (field.variableName, s) :: after) = [(field.key, guess field.key s)] :=
  Config.variable_alone field.keyOf?_variable s others

theorem says_set {α : Type} (field : TextField) (root : Entries) (reads : v.text? = some t) (read : Value → Option α) :
    Says read [field.sectionName, field.name] (some (.table (setKey root field.key v))) (some (read v)) := by
  rw [field.setKey_field root reads]
  refine ⟨_, rfl, ?_⟩
  rw [find?_put rfl]
  refine ⟨_, rfl, ?_⟩
  rw [find?_put rfl]
  cases v with
  | table entries => cases reads
  | _ => rfl

theorem read_set (field : TextField) {root : Entries} (reads : v.text? = some t)
    (loaded : Settings.read? (setKey root field.key v) = some settings) : field.of settings = some t := by
  have stands {α : Type} (read : Value → Option α) := field.says_set root reads read
  cases field with
  | bindAddr => exact (Field.bindAddr.read_said loaded (stands _)).symm.trans reads
  | url => exact (Field.url.read_said loaded (stands _)).symm.trans reads
  | baseUrl => exact Option.some.inj ((Field.baseUrl.read_said loaded (stands _)).symm.trans (optional_text reads))
  | model => exact (Field.model.read_said loaded (stands _)).symm.trans reads
  | apiKey => exact Option.some.inj ((Field.apiKey.read_said loaded (stands _)).symm.trans (optional_text reads))

section
variable {α : Type} {read : Value → Option α} {default : α} {key other : String}

theorem entry_there (key : String) (v : Value) : readOr default read (Entries.find? key [(key, v)]) = read v := by
  rw [Entries.find?, if_pos rfl]
  rfl

theorem entry_absent (apart : other ≠ key) (v : Value) :
    readOr default read (Entries.find? other [(key, v)]) = some default := by
  rw [Entries.find?, if_neg apart]
  rfl

end

theorem llm_alone {llm : LlmSettings} (section_ : LlmSettings.read? v = some llm) :
    Settings.read? [("llm", v)] = some {Settings.default with llm := llm} :=
  settings_exact.mpr ⟨entry_absent (by decide) v, entry_absent (by decide) v, (entry_there _ v).trans section_⟩

theorem read_alone (field : TextField) (reads : v.text? = some t) :
    Settings.read? (setKey [] field.key v) = some (field.set t Settings.default) := by
  have optional := optional_text reads
  have given : setKey [] field.key v = [(field.sectionName, .table [(field.name, v)])] := field.setKey_field [] reads
  have absent {α : Type} {read : Value → Option α} {default : α} {key other : String} (apart : other ≠ key) :
      readOr default read (Entries.find? other [(key, v)]) = some default := entry_absent apart v
  rw [given]
  cases field with
  | bindAddr =>
    have server : ServerSettings.read? (.table [("bind_addr", v)]) = some ⟨t, ServerSettings.default.allowedOrigins⟩ :=
      server_exact.mpr ⟨(entry_there _ v).trans reads, absent (by decide)⟩
    refine settings_exact.mpr ⟨(entry_there _ _).trans server, ?_, ?_⟩
    · exact entry_absent (by decide) _
    · exact entry_absent (by decide) _
  | url =>
    have backend : BackendSettings.read? (.table [("url", v)]) = some ⟨t, defaultTimeout⟩ :=
      backend_exact.mpr ⟨(entry_there _ v).trans reads, absent (by decide)⟩
    refine settings_exact.mpr ⟨?_, (entry_there _ _).trans backend, ?_⟩
    · exact entry_absent (by decide) _
    · exact entry_absent (by decide) _
  | baseUrl =>
    apply llm_alone
    exact llm_exact.mpr ⟨(entry_there _ v).trans optional, absent (by decide), absent (by decide), absent (by decide),
      absent (by decide)⟩
  | model =>
    apply llm_alone
    exact llm_exact.mpr ⟨absent (by decide), (entry_there _ v).trans reads, absent (by decide), absent (by decide),
      absent (by decide)⟩
  | apiKey =>
    apply llm_alone
    exact llm_exact.mpr ⟨absent (by decide), absent (by decide), (entry_there _ v).trans optional, absent (by decide),
      absent (by decide)⟩

end TextField

-- A variable's text arrives as what it is taken for, over whatever the files say by keys whose letter case does not
-- matter, and alone it changes nothing else.
theorem variable_arrives (library : Library) (field : TextField) (s : String) (before after : List (String × String))
    (others : ∀ entry ∈ before ++ after, keyOf? entry.1 = none) :
    ∃ t, (∀ u, Arrives s u ↔ u = t) ∧
      (∀ files explicit settings, Leveled library files explicit →
        load? library ⟨files, before ++ (field.variableName, s) :: after⟩ explicit = some settings →
          field.of settings = some t) ∧
      load? library ⟨[], before ++ (field.variableName, s) :: after⟩ none = some (field.set t Settings.default) := by
  obtain ⟨t, arrives, reads⟩ := guess_arrives field.key_other s
  have alone := field.variable_alone s others
  refine ⟨t, ?_, ?_, ?_⟩
  · intro u
    constructor
    · exact arrives_unique arrives
    · rintro rfl
      exact arrives
  · intro files explicit settings level loaded
    rw [load?_merged level] at loaded
    obtain ⟨root, merged, read⟩ := Option.bind_eq_some_iff.mp loaded
    obtain ⟨first, -, more⟩ := Option.bind_eq_some_iff.mp merged
    obtain ⟨named, -, same⟩ := Option.bind_eq_some_iff.mp more
    rw [alone, library.arranged_single .environment (guess_plain field.key s)] at same
    cases same
    exact field.read_set reads read
  · have set := @Library.arranged_single field.key _ library .environment (guess_plain field.key s)
    have root : merged? library ⟨[], before ++ (field.variableName, s) :: after⟩ none =
        some (setKey [] field.key (guess field.key s)) := by
      simp [merged?, defaultEntries?, explicitEntries?, Library.read?, library.arranged_nil, alone, set, setAll,
        defaultNames]
    rw [load?_merged (leveled_unfiled library), root]
    exact field.read_alone reads

theorem variable_arrives_key :
    load? .textual ⟨[], [("PATH", "/bin"), ("TOOLCHAT__LLM__API_KEY", "007")]⟩ none =
      some (TextField.apiKey.set "7" Settings.default) := by
  have unset : ∀ entry ∈ [("PATH", "/bin")] ++ [], keyOf? entry.1 = none := by decide +kernel
  obtain ⟨t, arrives, -, alone⟩ := variable_arrives .textual .apiKey "007" [("PATH", "/bin")] [] unset
  have wordless : ∀ b, Text.lower "007" ≠ Value.boolText b := by decide +kernel
  have seven : Decimal.readSigned? "007".toList = some 7 := by decide +kernel
  obtain rfl := (arrives _).mp (.whole wordless seven)
  exact alone

-- A key that reads as a number arrives in the plain spelling of that number.
theorem variable_not_verbatim :
    ¬ ∀ (field : TextField) (s : String) (settings : Settings),
      load? .textual ⟨[], [(field.variableName, s)]⟩ none = some settings → field.of settings = some s := by
  intro always
  have loaded : load? .textual ⟨[], [("TOOLCHAT__LLM__API_KEY", "1e5")]⟩ none =
      some (TextField.apiKey.set "100000" Settings.default) := by decide +kernel
  have same := always .apiKey "1e5" _ loaded
  exact absurd same (by decide)

end ToolGateway.Config
