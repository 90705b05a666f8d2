import Mathlib
import ToolGateway.Proofs.Config.Remerging

namespace ToolGateway.Config

inductive Field : Type → Type where
  | bindAddr : Field String
  | allowedOrigins : Field (List String)
  | url : Field String
  | requestTimeout : Field Nat
  | baseUrl : Field (Option String)
  | model : Field String
  | apiKey : Field (Option String)
  | answerTimeout : Field Nat

namespace Field

variable {α : Type}

def path : Field α → List String
  | bindAddr => ["server", "bind_addr"]
  | allowedOrigins => ["server", "allowed_origins"]
  | url => ["backend", "url"]
  | requestTimeout => ["backend", "request_timeout_secs"]
  | baseUrl => ["llm", "base_url"]
  | model => ["llm", "model"]
  | apiKey => ["llm", "api_key"]
  | answerTimeout => ["llm", "timeouts", "request"]

def read : Field α → Value → Option α
  | bindAddr | url | model => Value.text?
  | allowedOrigins => origins?
  | requestTimeout | answerTimeout => Value.unsigned?
  | baseUrl | apiKey => optionalText?

def of : Field α → Settings → α
  | bindAddr, s => s.server.bindAddr
  | allowedOrigins, s => s.server.allowedOrigins
  | url, s => s.backend.url
  | requestTimeout, s => s.backend.requestTimeoutSecs
  | baseUrl, s => s.llm.baseUrl
  | model, s => s.llm.model
  | apiKey, s => s.llm.apiKey
  | answerTimeout, s => s.llm.requestTimeoutSecs

-- The setting gives the field a value, or spoils it from below. An empty table does neither.
def Touched (f : Field α) (setting : Setting) : Prop :=
  fieldSteps f.path <+: setting.1 ∧ setting ≠ (fieldSteps f.path, .table [])

-- The value of a field by its sources, the highest first. A source has its settings in no order.
inductive Settled (f : Field α) : List (List Setting) → α → Prop where
  | builtIn : Settled f [] (f.of Settings.default)
  | here {source : List Setting} {lower : List (List Setting)} {v : Value} {a : α}
      (set : (fieldSteps f.path, v) ∈ source) (reads : f.read v = some a) : Settled f (source :: lower) a
  | next {source : List Setting} {lower : List (List Setting)} {a : α}
      (silent : ∀ s ∈ source, ¬ f.Touched s) (settled : Settled f lower a) : Settled f (source :: lower) a

end Field

-- Sections are tables wherever they are given.
def sections : List (List String) := [["server"], ["backend"], ["llm"], ["llm", "timeouts"]]

def Sectioned (source : List Setting) : Prop :=
  ∀ path ∈ sections, ∀ s ∈ source, (s.1 = fieldSteps path → s.2 = .table []) ∧ ¬ Placed path s.1

def Unplaced (source : List Setting) : Prop := ∀ s ∈ source, ¬ Placed Field.allowedOrigins.path s.1

section
variable {α σ : Type} {f : Field α} {read : Value → Option α} {path : List String} {steps : List Step}
  {settings : List Setting} {setting : Setting} {verdict : Option (Option α)} {value : Option Value} {v : Value}
  {a default : α} {entries root source : Entries} {name : String} {s : Settings} {sources others : List (List Setting)}

theorem leads_of (tables : ∀ front name back, path = front ++ name :: back →
    (steps = fieldSteps front → v = .table []) ∧ ¬ Placed front steps) : Leads path steps v := by
  induction path generalizing steps with
  | nil => trivial
  | cons name path ih =>
    obtain ⟨table, unplaced⟩ := tables [] name path rfl
    cases steps with
    | nil => exact table rfl
    | cons step steps =>
      cases step with
      | item index => exact unplaced (placed_item index steps)
      | child key =>
        rintro rfl
        apply ih
        intro front next back same
        obtain ⟨deeper, clear⟩ := tables (key :: front) next back (by rw [same]; rfl)
        exact ⟨fun here => deeper (congrArg _ here), fun placed => clear (placed_behind.mpr placed)⟩

theorem sourceSettings_child (present : setting ∈ sourceSettings source) :
    ∃ key rest, setting.1 = .child key :: rest := by
  obtain ⟨⟨key, value⟩, -, inside⟩ := List.mem_flatMap.mp present
  obtain ⟨within, -, rfl⟩ := List.mem_map.mp inside
  have first : ∃ name rest, lastLowered (keySteps key) = .child name :: rest := by
    rw [keySteps]
    split
    · exact ⟨_, _, rfl⟩
    · rename_i given _
      cases given.steps <;> exact ⟨_, _, rfl⟩
  obtain ⟨name, rest, split⟩ := first
  exact ⟨name, rest ++ within.1, by rw [Setting.behind, split]; rfl⟩

namespace Field

theorem front_section {front back : List String} (f : Field α) (split : f.path = front ++ name :: back) :
    front = [] ∨ front ∈ sections := by
  rcases front with _ | ⟨one, _ | ⟨two, _ | ⟨three, rest⟩⟩⟩
  all_goals cases f
  all_goals simp_all [path, sections]

theorem leads (f : Field α) (sectioned : Sectioned (sourceSettings source)) :
    ∀ s ∈ sourceSettings source, Leads f.path s.1 s.2 := by
  intro s present
  apply leads_of
  intro front name back split
  rcases f.front_section split with rfl | section_
  · obtain ⟨key, rest, first⟩ := sourceSettings_child present
    rw [first]
    constructor
    · intro empty
      cases empty
    · rintro ⟨index, starts⟩
      cases (List.cons_prefix_cons.mp starts).1
  · exact sectioned front section_ s present

theorem tables (f : Field α) (entries : Entries) : f.read (.table entries) = none := by
  cases f <;> rfl

theorem lists (f : Field α) (unplaced : Unplaced settings) :
    (∀ items, f.read (.list items) = none) ∨ ∀ s ∈ settings, ¬ Placed f.path s.1 := by
  cases f with
  | allowedOrigins => exact .inr unplaced
  | _ => exact .inl fun _ => rfl

end Field

theorem said_none (silent : said read v = none) : v = .table [] := by
  unfold said at silent
  split at silent
  · rfl
  · cases silent

theorem said_some (spoken : said read v = some (some a)) : read v = some a := by
  unfold said at spoken
  split at spoken
  · cases spoken
  · exact Option.some.inj spoken

theorem read_said (tables : ∀ entries, read (.table entries) = none) (reads : readOr default read value = some a)
    (stands : Says read [] value verdict) : verdict.getD (some default) = some a := by
  cases value with
  | none =>
    obtain rfl := says_none.mp stands
    exact reads
  | some v =>
    obtain rfl : verdict = said read v := stands
    cases spoken : said read v with
    | none =>
      obtain rfl := said_none spoken
      rw [readOr, tables] at reads
      cases reads
    | some result =>
      have same : said read v = some (read v) := by
        unfold said at spoken ⊢
        split
        · cases spoken
        · rfl
      rw [← spoken, same]
      exact reads

theorem entry_said (tables : ∀ entries, read (.table entries) = none)
    (reads : readOr default read (Entries.find? name entries) = some a)
    (stands : Says read [name] (some (.table entries)) verdict) : verdict.getD (some default) = some a := by
  obtain ⟨_, same, inside⟩ := stands
  cases same
  exact read_said tables reads inside

theorem section_said {missing t : σ} {readSection : Value → Option σ} (get : σ → α)
    (inside : ∀ {entries t verdict}, readSection (.table entries) = some t →
      Says read path (some (.table entries)) verdict → verdict.getD (some (get missing)) = some (get t))
    (reads : readOr missing readSection (Entries.find? name root) = some t) (deep : path ≠ [])
    (stands : Says read (name :: path) (some (.table root)) verdict) :
    verdict.getD (some (get missing)) = some (get t) := by
  obtain ⟨_, same, within⟩ := stands
  cases same
  cases found : Entries.find? name root with
  | none =>
    rw [found] at reads within
    cases reads
    obtain rfl := says_none.mp within
    rfl
  | some v =>
    rw [found] at reads within
    obtain ⟨field, rest, rfl⟩ := List.exists_cons_of_ne_nil deep
    have table := within
    obtain ⟨entries, rfl, _⟩ := table
    exact inside reads within

theorem server_exact {server : ServerSettings} :
    ServerSettings.read? (.table entries) = some server ↔
      readOr ServerSettings.default.bindAddr Value.text? (Entries.find? "bind_addr" entries) = some server.bindAddr ∧
      readOr ServerSettings.default.allowedOrigins origins? (Entries.find? "allowed_origins" entries) =
        some server.allowedOrigins := by
  simp only [ServerSettings.read?, given?, Option.bind_eq_bind, Option.bind_some, Option.bind_eq_some_iff]
  constructor
  · rintro ⟨_, bindAddr, _, origins, same⟩
    cases same
    exact ⟨bindAddr, origins⟩
  · rintro ⟨bindAddr, origins⟩
    exact ⟨_, bindAddr, _, origins, rfl⟩

theorem backend_exact {backend : BackendSettings} :
    BackendSettings.read? (.table entries) = some backend ↔
      readOr BackendSettings.default.url Value.text? (Entries.find? "url" entries) = some backend.url ∧
      readOr defaultTimeout Value.unsigned? (Entries.find? "request_timeout_secs" entries) =
        some backend.requestTimeoutSecs := by
  simp only [BackendSettings.read?, given?, Option.bind_eq_bind, Option.bind_some, Option.bind_eq_some_iff]
  constructor
  · rintro ⟨_, url, _, timeout, same⟩
    cases same
    exact ⟨url, timeout⟩
  · rintro ⟨url, timeout⟩
    exact ⟨_, url, _, timeout, rfl⟩

theorem llm_exact {llm : LlmSettings} :
    LlmSettings.read? (.table entries) = some llm ↔
      readOr none optionalText? (Entries.find? "base_url" entries) = some llm.baseUrl ∧
      readOr LlmSettings.default.model Value.text? (Entries.find? "model" entries) = some llm.model ∧
      readOr none optionalText? (Entries.find? "api_key" entries) = some llm.apiKey ∧
      readOr tenth temperature? (Entries.find? "temperature" entries) = some llm.temperature ∧
      readOr defaultTimeout timeouts? (Entries.find? "timeouts" entries) = some llm.requestTimeoutSecs := by
  simp only [LlmSettings.read?, given?, Given.mayLack, Bool.and_self, Bool.not_true, Bool.false_eq_true, if_false,
    Option.bind_eq_bind, Option.bind_some, Option.bind_eq_some_iff]
  constructor
  · rintro ⟨_, baseUrl, _, model, _, apiKey, _, temperature, _, timeout, same⟩
    cases same
    exact ⟨baseUrl, model, apiKey, temperature, timeout⟩
  · rintro ⟨baseUrl, model, apiKey, temperature, timeout⟩
    exact ⟨_, baseUrl, _, model, _, apiKey, _, temperature, _, timeout, rfl⟩

theorem timeouts_exact {timeout : Nat} :
    timeouts? (.table entries) = some timeout ↔
      readOr defaultTimeout Value.unsigned? (Entries.find? "request" entries) = some timeout := Iff.rfl

theorem settings_exact :
    Settings.read? root = some s ↔
      readOr .default ServerSettings.read? (Entries.find? "server" root) = some s.server ∧
      readOr .default BackendSettings.read? (Entries.find? "backend" root) = some s.backend ∧
      readOr .default LlmSettings.read? (Entries.find? "llm" root) = some s.llm := by
  simp only [Settings.read?, Option.bind_eq_bind, Option.bind_eq_some_iff]
  constructor
  · rintro ⟨_, server, _, backend, _, llm, same⟩
    cases same
    exact ⟨server, backend, llm⟩
  · rintro ⟨server, backend, llm⟩
    exact ⟨_, server, _, backend, _, llm, rfl⟩

namespace Field

theorem section_said (f : Field α) {missing t : σ} {readSection : Value → Option σ} {key : String} (get : σ → α)
    (reads : ∀ {entries t}, readSection (.table entries) = some t →
      readOr (get missing) f.read (Entries.find? name entries) = some (get t))
    (given : readOr missing readSection (Entries.find? key root) = some t)
    (stands : Says f.read [key, name] (some (.table root)) verdict) :
    verdict.getD (some (get missing)) = some (get t) := by
  apply Config.section_said get _ given (List.cons_ne_nil _ _) stands
  intro entries t verdict loaded within
  exact entry_said f.tables (reads loaded) within

-- What a field is read as is what is said of it, or the built-in value.
theorem read_said (f : Field α) (loaded : Settings.read? root = some s)
    (stands : Says f.read f.path (some (.table root)) verdict) :
    verdict.getD (some (f.of Settings.default)) = some (f.of s) := by
  obtain ⟨server, backend, llm⟩ := settings_exact.mp loaded
  cases f with
  | bindAddr => exact bindAddr.section_said (·.bindAddr) (fun given => (server_exact.mp given).1) server stands
  | allowedOrigins =>
    exact allowedOrigins.section_said (·.allowedOrigins) (fun given => (server_exact.mp given).2) server stands
  | url => exact url.section_said (·.url) (fun given => (backend_exact.mp given).1) backend stands
  | requestTimeout =>
    exact requestTimeout.section_said (·.requestTimeoutSecs) (fun given => (backend_exact.mp given).2) backend stands
  | baseUrl => exact baseUrl.section_said (·.baseUrl) (fun given => (llm_exact.mp given).1) llm stands
  | model => exact model.section_said (·.model) (fun given => (llm_exact.mp given).2.1) llm stands
  | apiKey => exact apiKey.section_said (·.apiKey) (fun given => (llm_exact.mp given).2.2.1) llm stands
  | answerTimeout =>
    apply Config.section_said (·.requestTimeoutSecs) _ llm (List.cons_ne_nil _ _) stands
    intro entries llm verdict given within
    exact answerTimeout.section_said id timeouts_exact.mp (llm_exact.mp given).2.2.2.2 within

theorem verdict_none : setting.verdict f.read f.path = none ↔ ¬ f.Touched setting := by
  obtain ⟨steps, v⟩ := setting
  by_cases at_ : steps = fieldSteps f.path
  · subst at_
    have here : Setting.verdict f.read f.path (fieldSteps f.path, v) = said f.read v := if_pos rfl
    rw [here]
    constructor
    · intro silent touched
      apply touched.2
      rw [said_none silent]
    · intro untouched
      by_cases empty : v = .table []
      · rw [empty]
        rfl
      · apply absurd _ untouched
        exact ⟨List.prefix_rfl, fun same => empty (congrArg Prod.snd same)⟩
  · have apart : (steps, v) ≠ (fieldSteps f.path, .table []) := fun same => at_ (congrArg Prod.fst same)
    simp [Setting.verdict, Touched, at_, apart]

theorem verdict_some (spoken : setting.verdict f.read f.path = some (some a)) :
    ∃ v, setting = (fieldSteps f.path, v) ∧ f.read v = some a := by
  obtain ⟨steps, v⟩ := setting
  by_cases at_ : steps = fieldSteps f.path
  · subst at_
    have here : Setting.verdict f.read f.path (fieldSteps f.path, v) = said f.read v := if_pos rfl
    rw [here] at spoken
    exact ⟨v, rfl, said_some spoken⟩
  · rw [Setting.verdict, if_neg at_] at spoken
    split at spoken
    · cases spoken
    · cases spoken

theorem told_none (silent : told f.read f.path settings = none) : ∀ s ∈ settings, ¬ f.Touched s := by
  induction settings with
  | nil => exact fun _ inside => nomatch inside
  | cons setting rest ih =>
    obtain ⟨later, first⟩ := Option.or_eq_none_iff.mp silent
    intro s present
    rcases List.mem_cons.mp present with rfl | behind
    · exact verdict_none.mp first
    · exact ih later s behind

theorem told_some (spoken : told f.read f.path settings = some (some a)) :
    ∃ v, (fieldSteps f.path, v) ∈ settings ∧ f.read v = some a := by
  induction settings with
  | nil => cases spoken
  | cons setting rest ih =>
    rcases Option.or_eq_some_iff.mp spoken with later | ⟨-, here⟩
    · obtain ⟨v, inside, reads⟩ := ih later
      exact ⟨v, List.mem_cons_of_mem _ inside, reads⟩
    · obtain ⟨v, rfl, reads⟩ := verdict_some here
      exact ⟨v, List.mem_cons_self .., reads⟩

def toldBy (f : Field α) : List (List Setting) → Option (Option α)
  | [] => none
  | source :: lower => (told f.read f.path source).or (f.toldBy lower)

theorem settled (tells : (f.toldBy sources).getD (some (f.of Settings.default)) = some a) : Settled f sources a := by
  induction sources with
  | nil =>
    cases tells
    exact .builtIn
  | cons source lower ih =>
    cases spoken : told f.read f.path source with
    | none =>
      rw [toldBy, spoken, Option.none_or] at tells
      exact .next (told_none spoken) (ih tells)
    | some result =>
      rw [toldBy, spoken, Option.some_or] at tells
      obtain rfl : result = some a := tells
      obtain ⟨v, inside, reads⟩ := told_some spoken
      exact .here inside reads

end Field

end

end ToolGateway.Config
