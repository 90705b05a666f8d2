import Mathlib
import ToolGateway.Config.Legacy
import ToolGateway.Proofs.Config.Layering
import ToolGateway.Proofs.Net.Address
import ToolGateway.Proofs.Text.Bytes
import ToolGateway.Proofs.Text.Fields
import ToolGateway.Proofs.Text.Trim

namespace ToolGateway.Config.Legacy

inductive Variable : Type → Type where
  | url : Variable String
  | key : Variable (Option String)
  | model : Variable String
  | port : Variable String
  | origins : Variable (List String)

namespace Variable

variable {α : Type}

def name : Variable α → String
  | url => "MCP_SERVER_URL"
  | key => "OPENAI_API_KEY"
  | model => "OPENAI_MODEL"
  | port => "BACKEND_PORT"
  | origins => "ALLOWED_ORIGINS"

def field : Variable α → Field α
  | url => .url
  | key => .apiKey
  | model => .model
  | port => .bindAddr
  | origins => .allowedOrigins

def value : Variable α → String → α → α
  | url, text, _ | model, text, _ => text
  | key, text, _ => some text
  | port, text, address => withPort address text
  | origins, text, _ => originList text

end Variable

-- The pieces between commas in which a list of origins is written: an origin with blanks around it, or only blanks.
inductive Spaced : List String → List (List Char) → Prop where
  | nil : Spaced [] []
  | origin {origin : String} {before after : List Char} {origins : List String} {pieces : List (List Char)}
      (some_ : origin ≠ "") (trimmed : Text.Trimmed origin.toList) (whole : ',' ∉ origin.toList)
      (front : ∀ c ∈ before, Text.isBlank c = true) (back : ∀ c ∈ after, Text.isBlank c = true)
      (more : Spaced origins pieces) : Spaced (origin :: origins) ((before ++ (origin.toList ++ after)) :: pieces)
  | gap {blanks : List Char} {origins : List String} {pieces : List (List Char)}
      (blank : ∀ c ∈ blanks, Text.isBlank c = true) (more : Spaced origins pieces) : Spaced origins (blanks :: pieces)

def kept (pieces : List (List Char)) : List String :=
  ((pieces.map Text.trimChars).filter fun piece => !piece.isEmpty).map String.ofList

def Lists (value : String) (origins : List String) : Prop :=
  ∃ pieces, Spaced origins pieces ∧ value.toList = List.intercalate [','] pieces

section
variable {α : Type} {env : Environment} {s t : Settings} {origins : List String} {pieces : List (List Char)}
  {host old : List Char} {address port value : String}

theorem applyPort_set (env : Environment) (s : ServerSettings) :
    applyPort env s = {s with bindAddr := (env "BACKEND_PORT").elim s.bindAddr (withPort s.bindAddr)} := by
  unfold applyPort
  cases env "BACKEND_PORT" <;> rfl

theorem applyOrigins_set (env : Environment) (s : ServerSettings) :
    applyOrigins env s = {s with allowedOrigins := (env "ALLOWED_ORIGINS").elim s.allowedOrigins originList} := by
  unfold applyOrigins
  cases env "ALLOWED_ORIGINS" <;> rfl

theorem applyUrl_set (env : Environment) (s : BackendSettings) :
    applyUrl env s = {s with url := (env "MCP_SERVER_URL").elim s.url id} := by
  unfold applyUrl
  cases env "MCP_SERVER_URL" <;> rfl

theorem applyKey_set (env : Environment) (s : LlmSettings) :
    applyKey env s = {s with apiKey := (env "OPENAI_API_KEY").elim s.apiKey some} := by
  unfold applyKey
  cases env "OPENAI_API_KEY" <;> rfl

theorem applyModel_set (env : Environment) (s : LlmSettings) :
    applyModel env s = {s with model := (env "OPENAI_MODEL").elim s.model id} := by
  unfold applyModel
  cases env "OPENAI_MODEL" <;> rfl

theorem variable_sets (v : Variable α) (env : Environment) (s : Settings) :
    v.field.of (apply env s) = (env v.name).elim (v.field.of s) fun text => v.value text (v.field.of s) := by
  rw [apply, applyOrigins_set, applyPort_set, applyUrl_set, applyModel_set, applyKey_set]
  cases v <;> rfl

theorem variable_set (v : Variable α) (set : env v.name = some value) (s : Settings) :
    v.field.of (apply env s) = v.value value (v.field.of s) := by
  rw [variable_sets, set]
  rfl

theorem unset_untouched (f : Field α) (unset : ∀ v : Variable α, v.field = f → env v.name = none) (s : Settings) :
    f.of (apply env s) = f.of s := by
  have governed (v : Variable α) (same : v.field = f) : f.of (apply env s) = f.of s := by
    subst same
    rw [variable_sets, unset v rfl]
    rfl
  cases f with
  | url => exact governed .url rfl
  | apiKey => exact governed .key rfl
  | model => exact governed .model rfl
  | bindAddr => exact governed .port rfl
  | allowedOrigins => exact governed .origins rfl
  | requestTimeout =>
    rw [apply, applyUrl_set]
    rfl
  | baseUrl | answerTimeout =>
    rw [apply, applyModel_set, applyKey_set]
    rfl

theorem temperature_untouched (env : Environment) (s : Settings) :
    (apply env s).llm.temperature = s.llm.temperature := by
  rw [apply, applyModel_set, applyKey_set]

theorem settings_same (fields : ∀ {α : Type} (f : Field α), f.of s = f.of t)
    (temperature : s.llm.temperature = t.llm.temperature) : s = t := by
  obtain ⟨⟨bindAddr, origins⟩, ⟨url, timeout⟩, ⟨base, model, key, warmth, answer⟩⟩ := s
  obtain rfl : bindAddr = t.server.bindAddr := fields .bindAddr
  obtain rfl : origins = t.server.allowedOrigins := fields .allowedOrigins
  obtain rfl : url = t.backend.url := fields .url
  obtain rfl : timeout = t.backend.requestTimeoutSecs := fields .requestTimeout
  obtain rfl : base = t.llm.baseUrl := fields .baseUrl
  obtain rfl : model = t.llm.model := fields .model
  obtain rfl : key = t.llm.apiKey := fields .apiKey
  obtain rfl : answer = t.llm.requestTimeoutSecs := fields .answerTimeout
  obtain rfl : warmth = t.llm.temperature := temperature
  rfl

theorem withPort_behind (last : ':' ∉ old) (split : address.toList = host ++ ':' :: old) (port : String) :
    withPort address port = String.ofList (host ++ ':' :: Text.trimChars port.toList) := by
  rw [withPort, hostOf, split, Text.cutLast_single last]

theorem withPort_twice (plain : ':' ∉ Text.trimChars port.toList) (address : String) :
    withPort (withPort address port) port = withPort address port := by
  apply withPort_behind plain
  rw [withPort, String.toList_ofList]

theorem withPort_parses {ip : Net.Ip} {port : Nat} {result : Net.Address}
    (parses : Net.Address.parse? address = some ⟨ip, port⟩) (text : String) :
    Net.Address.parse? (withPort address text) = some result ↔
      result.ip = ip ∧ Net.DecimalPort (Text.trimChars text.toList) result.port := by
  obtain ⟨host, digits, split, last, ported⟩ := Net.parse?_ported parses
  rw [withPort_behind last split]
  exact ported _ result

theorem value_twice (v : Variable α) (text : String) (a : α)
    (plain : v.name = "BACKEND_PORT" → ':' ∉ Text.trimChars text.toList) :
    v.value text (v.value text a) = v.value text a := by
  cases v with
  | port => exact withPort_twice (plain rfl) a
  | url | key | model | origins => rfl

theorem apply_twice (plain : ∀ port, env "BACKEND_PORT" = some port → ':' ∉ Text.trimChars port.toList)
    (s : Settings) : apply env (apply env s) = apply env s := by
  apply settings_same
  · intro α f
    by_cases governed : ∃ v : Variable α, v.field = f
    · obtain ⟨v, rfl⟩ := governed
      cases set : env v.name with
      | none => rw [variable_sets v env (apply env s), set, Option.elim_none]
      | some text =>
        rw [variable_set v set, variable_set v set]
        exact value_twice v text _ fun port => plain text (port ▸ set)
    · have free : ∀ v : Variable α, v.field = f → env v.name = none := fun v same => absurd ⟨v, same⟩ governed
      exact unset_untouched f free _
  · exact temperature_untouched env _

theorem kept_blank {piece : List Char} (blank : Text.trimChars piece = []) (rest : List (List Char)) :
    kept (piece :: rest) = kept rest := by
  simp [kept, blank]

theorem kept_origin {piece : List Char} (some_ : Text.trimChars piece ≠ []) (rest : List (List Char)) :
    kept (piece :: rest) = String.ofList (Text.trimChars piece) :: kept rest := by
  simp [kept, some_]

theorem kept_spaced (spaced : Spaced origins pieces) : kept pieces = origins := by
  induction spaced with
  | nil => rfl
  | @origin origin before after origins pieces some_ trimmed whole front back more ih =>
    have trim : Text.trimChars (before ++ (origin.toList ++ after)) = origin.toList := by
      rw [Text.trimChars_blanks front back, trimmed.fixed]
    have left : Text.trimChars (before ++ (origin.toList ++ after)) ≠ [] := by
      rw [trim]
      exact mt String.toList_eq_nil_iff.mp some_
    rw [kept_origin left, trim, ih, String.ofList_toList]
  | @gap blanks origins pieces blank more ih =>
    have trim : Text.trimChars blanks = [] := by
      rw [Text.trimChars, Text.trimStart_blank blank]
      rfl
    rw [kept_blank trim, ih]

theorem spaced_kept (free : ∀ piece ∈ pieces, ',' ∉ piece) : Spaced (kept pieces) pieces := by
  induction pieces with
  | nil => exact .nil
  | cons piece rest ih =>
    obtain ⟨first, later⟩ := List.forall_mem_cons.mp free
    obtain ⟨before, after, front, back, whole⟩ := Text.trimChars_ends piece
    by_cases nothing : Text.trimChars piece = []
    · rw [kept_blank nothing]
      apply Spaced.gap _ (ih later)
      intro c present
      rw [whole, nothing] at present
      rcases List.mem_append.mp present with inside | inside
      · exact front c inside
      · exact back c inside
    · have written : (String.ofList (Text.trimChars piece)).toList = Text.trimChars piece := String.toList_ofList
      have spaced : Spaced (String.ofList (Text.trimChars piece) :: kept rest)
          ((before ++ ((String.ofList (Text.trimChars piece)).toList ++ after)) :: rest) := by
        apply Spaced.origin _ _ _ front back (ih later)
        · intro empty
          rw [empty] at written
          exact nothing written.symm
        · rw [written]
          exact Text.trimmed_trimChars piece
        · rw [written]
          exact fun present => first ((Text.trimChars_infix piece).subset present)
      rw [kept_origin nothing]
      rwa [written, ← whole] at spaced

theorem Spaced.free (spaced : Spaced origins pieces) : ∀ piece ∈ pieces, ',' ∉ piece := by
  have unblank {w : List Char} (blank : ∀ c ∈ w, Text.isBlank c = true) : ',' ∉ w :=
    fun present => absurd (blank ',' present) (by decide)
  induction spaced with
  | nil => simp
  | origin some_ trimmed whole front back more ih =>
    refine List.forall_mem_cons.mpr ⟨?_, ih⟩
    simp only [List.mem_append, not_or]
    exact ⟨unblank front, whole, unblank back⟩
  | gap blank more ih => exact List.forall_mem_cons.mpr ⟨unblank blank, ih⟩

theorem originList_exact : originList value = origins ↔ Lists value origins := by
  constructor
  · rintro rfl
    exact ⟨_, spaced_kept (Text.fields_free ',' _), (Text.joined_fields ',' _).symm⟩
  · rintro ⟨pieces, spaced, written⟩
    have read : originList value = kept (Text.fields ',' value.toList) := rfl
    rw [read, written]
    cases pieces with
    | nil =>
      cases spaced
      rfl
    | cons piece rest =>
      rw [Text.fields_joined spaced.free (List.cons_ne_nil _ _)]
      exact kept_spaced spaced

end

-- Each variable gives its own field a value and leaves the others alone. A port takes the place of what stands behind
-- the last colon, so an address keeps its host; a list of origins is read as it is written.
theorem flat_variables_apply (env : Environment) (s : Settings) :
    (∀ {α : Type} (v : Variable α), v.field.of (apply env s) =
      (env v.name).elim (v.field.of s) fun text => v.value text (v.field.of s)) ∧
    (∀ {α : Type} (f : Field α), (∀ v : Variable α, v.field = f → env v.name = none) →
      f.of (apply env s) = f.of s) ∧
    (apply env s).llm.temperature = s.llm.temperature ∧
    (∀ port, env "BACKEND_PORT" = some port →
      (∀ host old, s.server.bindAddr.toList = host ++ ':' :: old → ':' ∉ old →
        (apply env s).server.bindAddr.toList = host ++ ':' :: Text.trimChars port.toList) ∧
      ∀ ip old, Net.Address.parse? s.server.bindAddr = some ⟨ip, old⟩ →
        (∀ address, Net.Address.parse? (apply env s).server.bindAddr = some address ↔
          address.ip = ip ∧ Net.DecimalPort (Text.trimChars port.toList) address.port) ∧
        ∀ n ≤ 65535, Text.trim port = toString n →
          Net.Address.parse? (apply env s).server.bindAddr = some ⟨ip, n⟩) ∧
    ((∀ port, env "BACKEND_PORT" = some port → ':' ∉ Text.trimChars port.toList) →
      apply env (apply env s) = apply env s) ∧
    ∀ value, env "ALLOWED_ORIGINS" = some value → ∀ origins,
      (apply env s).server.allowedOrigins = origins ↔ Lists value origins := by
  refine ⟨fun v => variable_sets v env s, fun f unset => unset_untouched f unset s, temperature_untouched env s, ?_,
    fun plain => apply_twice plain s, ?_⟩
  · intro port set
    have moved : (apply env s).server.bindAddr = withPort s.server.bindAddr port := variable_set .port set s
    rw [moved]
    constructor
    · intro host old split last
      rw [withPort_behind last split, String.toList_ofList]
    · intro ip old parses
      refine ⟨fun address => withPort_parses parses port, ?_⟩
      intro n bound same
      have decimal := Net.decimalPort_toString bound
      rw [← same, Text.trim, String.toList_ofList] at decimal
      exact (withPort_parses parses port).mpr ⟨rfl, decimal⟩
  · intro value set origins
    have listed : (apply env s).server.allowedOrigins = originList value := variable_set .origins set s
    rw [listed]
    exact originList_exact

def deployed (name : String) : Option String :=
  if name = "BACKEND_PORT" then some " 09100\n"
  else if name = "ALLOWED_ORIGINS" then some " http://a.test ,,http://b.test,"
  else none

def zoned : Settings := {Settings.default with server := ⟨"[fe80::1%3]:80", []⟩}

theorem flat_variables_apply_deployed :
    Net.Address.parse? (apply deployed zoned).server.bindAddr = some ⟨.v6 [0xFE80, 0, 0, 0, 0, 0, 0, 1] 3, 9100⟩ ∧
    (apply deployed zoned).server.allowedOrigins = ["http://a.test", "http://b.test"] ∧
    (apply deployed zoned).llm.model = zoned.llm.model ∧
    apply deployed (apply deployed zoned) = apply deployed zoned := by
  obtain ⟨sets, -, -, port, twice, origins⟩ := flat_variables_apply deployed zoned
  have parses : Net.Address.parse? zoned.server.bindAddr = some ⟨.v6 [0xFE80, 0, 0, 0, 0, 0, 0, 1] 3, 80⟩ := by
    decide +kernel
  have digits : Text.trimChars " 09100\n".toList = ['0', '9', '1', '0', '0'] := by decide +kernel
  have decimal : Net.DecimalPort (Text.trimChars " 09100\n".toList) 9100 := by
    rw [digits]
    exact ⟨by decide, List.all_eq_true.mp rfl, by decide +kernel, by decide⟩
  have listed : Lists " http://a.test ,,http://b.test," ["http://a.test", "http://b.test"] := by
    refine ⟨[" http://a.test ".toList, [], "http://b.test".toList, []], ?_, by simp⟩
    have none_ : ∀ c ∈ ([] : List Char), Text.isBlank c = true := by simp
    have space : ∀ c ∈ [' '], Text.isBlank c = true := List.all_eq_true.mp rfl
    have trimmed {origin : String} (fixed : Text.trimChars origin.toList = origin.toList) :
        Text.Trimmed origin.toList := fixed ▸ Text.trimmed_trimChars origin.toList
    exact .origin (by decide) (trimmed (by decide +kernel)) (by decide +kernel) space space <| .gap none_ <|
      .origin (by decide) (trimmed (by decide +kernel)) (by decide +kernel) none_ none_ <| .gap none_ .nil
  have plain : ∀ port, deployed "BACKEND_PORT" = some port → ':' ∉ Text.trimChars port.toList := by
    intro port set
    cases set
    rw [digits]
    decide
  exact ⟨(((port _ rfl).2 _ _ parses).1 _).mpr ⟨rfl, decimal⟩, (origins _ rfl _).mpr listed, sets .model, twice plain⟩

end ToolGateway.Config.Legacy
