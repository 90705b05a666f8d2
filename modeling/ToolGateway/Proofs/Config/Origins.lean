import Mathlib
import ToolGateway.Proofs.Config.Legacy
import ToolGateway.Proofs.Config.Variables
import ToolGateway.Proofs.Json.Record

namespace ToolGateway.Config

def originsVariable : String := "TOOLCHAT__SERVER__ALLOWED_ORIGINS"

inductive Scalar (s : String) : Prop where
  | truth {b : Bool} (word : Text.lower s = Value.boolText b)
  | whole {n : Int} (reads : Decimal.readSigned? s.toList = some n)
  | real {x : Decimal.Floating} (reads : Decimal.readFloating? s.toList = some x)

def piecesOf (s : String) : List String := (Text.fields ',' s.toList).map String.ofList

def Neat (s : String) : Prop := ∀ piece ∈ Text.fields ',' s.toList, piece ≠ [] ∧ Text.Trimmed piece

def Agree (library : Library) (s : String) : Prop :=
  ∃ settings, load? library ⟨[], [(originsVariable, s)]⟩ none = some settings ∧
    settings.server.allowedOrigins = Legacy.originList s

section
variable {s key : String} {v : Value} {root : Entries} {settings : Settings} {origins : List String}

theorem scalar_or_list (s : String) :
    (Scalar s ∧ (guess listKey s).list? = none) ∨ ¬ Scalar s ∧ guess listKey s = .list ((piecesOf s).map .text) := by
  rcases guess_cases listKey s with
    ⟨b, word, taken⟩ | ⟨wordless, ⟨n, whole, taken⟩ | ⟨whole, ⟨x, real, taken⟩ | ⟨real, taken⟩⟩⟩
  · exact .inl ⟨.truth word, by rw [taken]; rfl⟩
  · exact .inl ⟨.whole whole, by rw [taken]; rfl⟩
  · exact .inl ⟨.real real, by rw [taken]; rfl⟩
  · right
    constructor
    · rintro (word | reads | reads)
      · exact wordless _ word
      · cases whole.symm.trans reads
      · cases real.symm.trans reads
    · rw [taken, if_pos rfl, piecesOf, List.map_map]
      rfl

theorem origins?_texts (texts : List String) : origins? (.list (texts.map .text)) = some texts := by
  apply Json.mapM_exact.mpr
  rw [List.forall₂_map_left_iff, List.forall₂_same]
  exact fun _ _ => rfl

theorem origins?_unlisted (unlisted : v.list? = none) : origins? v = none := by
  rw [origins?, unlisted]
  rfl

theorem keyOf?_origins : keyOf? originsVariable = some listKey := by decide +kernel

theorem setKey_origins (replaces : ∀ old, v.merge old = v) (root : Entries) :
    setKey root listKey v = Entries.put "server"
      (.table (Entries.put "allowed_origins" v ((Entries.find? "server" root).getD Value.nil).entries)) root :=
  setKey_entry (by decide +kernel) (by decide +kernel) replaces root

theorem origins_read (replaces : ∀ old, v.merge old = v)
    (loaded : Settings.read? (setKey root listKey v) = some settings) :
    origins? v = some settings.server.allowedOrigins := by
  obtain ⟨server, -, -⟩ := settings_exact.mp loaded
  rw [setKey_origins replaces, find?_put rfl] at server
  have listed := (server_exact.mp server).2
  rwa [find?_put rfl] at listed

-- A section that is read stays readable as a table without its list. One that is given in order loses its items.
theorem address_read (loaded : readOr .default ServerSettings.read? (Entries.find? "server" root) = some settings.server) :
    ∃ address, (address = settings.server.bindAddr ∨ address = ServerSettings.default.bindAddr) ∧
      readOr ServerSettings.default.bindAddr Value.text?
        (Entries.find? "bind_addr" ((Entries.find? "server" root).getD Value.nil).entries) = some address := by
  cases there : Entries.find? "server" root with
  | none => exact ⟨_, .inr rfl, rfl⟩
  | some given =>
    rw [there] at loaded
    cases given with
    | table entries => exact ⟨_, .inl rfl, (server_exact.mp loaded).1⟩
    | _ => exact ⟨_, .inr rfl, rfl⟩

theorem read_origins (replaces : ∀ old, v.merge old = v) (listed : origins? v = some origins)
    (loaded : Settings.read? root = some settings) :
    ∃ address, (address = settings.server.bindAddr ∨ address = ServerSettings.default.bindAddr) ∧
      Settings.read? (setKey root listKey v) = some {settings with server := ⟨address, origins⟩} := by
  obtain ⟨server, backend, llm⟩ := settings_exact.mp loaded
  obtain ⟨address, from_, reads⟩ := address_read server
  refine ⟨address, from_, settings_exact.mpr ⟨?_, ?_, ?_⟩⟩
  · rw [setKey_origins replaces, find?_put rfl]
    apply server_exact.mpr
    rw [find?_put rfl, find?_put_other (by decide)]
    exact ⟨reads, listed⟩
  · rwa [setKey_origins replaces, find?_put_other (by decide)]
  · rwa [setKey_origins replaces, find?_put_other (by decide)]

theorem load?_origins (library : Library) {before after : List (String × String)} (s : String)
    (others : ∀ entry ∈ before ++ after, keyOf? entry.1 = none) {files : List (String × String)}
    {explicit : Option String} (level : Leveled library files explicit) :
    load? library ⟨files, before ++ (originsVariable, s) :: after⟩ explicit =
      (merged? library ⟨files, before ++ after⟩ explicit).bind fun root =>
        Settings.read? (setKey root listKey (guess listKey s)) := by
  have alone := variable_alone keyOf?_origins s others
  have set := @Library.arranged_single listKey _ library .environment (guess_plain listKey s)
  have silent : variableEntries (before ++ after) = [] := congrArg Entries.collect (unset_silent others)
  have unset := library.arranged_nil .environment
  rw [load?_merged level]
  simp only [merged?, alone, set, silent, unset, setAll, List.foldl_cons, List.foldl_nil, Option.bind_eq_bind,
    Option.bind_assoc, Option.bind_some]

theorem pieces_trimmed {pieces : List (List Char)} :
    ((pieces.map Text.trimChars).filter fun piece => !piece.isEmpty) = pieces ↔
      ∀ piece ∈ pieces, piece ≠ [] ∧ Text.Trimmed piece := by
  constructor
  · intro same
    have full : ∀ piece ∈ pieces.map Text.trimChars, (!piece.isEmpty) = true := by
      apply List.length_filter_eq_length_iff.mp
      rw [same, List.length_map]
    rw [List.filter_eq_self.mpr full] at same
    have fixed : ∀ piece ∈ pieces, Text.trimChars piece = piece := by
      apply List.map_eq_map_iff.mp
      rw [same, List.map_id']
    intro piece present
    have some_ := full _ (List.mem_map_of_mem present)
    rw [fixed piece present] at some_
    exact ⟨by simpa using some_, fixed piece present ▸ Text.trimmed_trimChars piece⟩
  · intro neat
    have fixed : pieces.map Text.trimChars = pieces := by
      rw [List.map_congr_left fun piece present => (neat piece present).2.fixed, List.map_id']
    rw [fixed, List.filter_eq_self]
    intro piece present
    simpa using (neat piece present).1

theorem originList_neat : Legacy.originList s = piecesOf s ↔ Neat s := by
  have apart : Function.Injective (List.map String.ofList) :=
    List.map_injective_iff.mpr fun _ _ same => String.ofList_injective same
  rw [Legacy.originList, piecesOf, apart.eq_iff]
  exact pieces_trimmed

end

-- A scalar is refused wherever it is set. Any other text is loaded wherever the rest is, and changes nothing but the
-- list, which has the text's pieces as they stand; only neat text is read alike by the flat variable.
theorem origins_variable_split (library : Library) (s : String) (before after : List (String × String))
    (others : ∀ entry ∈ before ++ after, keyOf? entry.1 = none) :
    (Scalar s → ∀ files explicit, Leveled library files explicit →
      load? library ⟨files, before ++ (originsVariable, s) :: after⟩ explicit = none) ∧
    (¬ Scalar s → ∀ files explicit, Leveled library files explicit →
      (∀ settings, load? library ⟨files, before ++ (originsVariable, s) :: after⟩ explicit = some settings →
        settings.server.allowedOrigins = piecesOf s) ∧
      ∀ settings, load? library ⟨files, before ++ after⟩ explicit = some settings →
        ∃ address, (address = settings.server.bindAddr ∨ address = ServerSettings.default.bindAddr) ∧
          load? library ⟨files, before ++ (originsVariable, s) :: after⟩ explicit =
            some {settings with server := ⟨address, piecesOf s⟩}) ∧
    ∀ env settings, env "ALLOWED_ORIGINS" = some s →
      ((Legacy.apply env settings).server.allowedOrigins = piecesOf s ↔ Neat s) := by
  have replaces := plain_merged (guess_plain listKey s)
  refine ⟨?_, ?_, ?_⟩
  · intro scalar files explicit level
    rcases scalar_or_list s with ⟨-, unlisted⟩ | ⟨other, -⟩
    · rw [load?_origins library s others level, Option.bind_eq_none_iff]
      intro root merged
      by_contra readable
      obtain ⟨settings, read⟩ := Option.ne_none_iff_exists'.mp readable
      have listed := origins_read replaces read
      rw [origins?_unlisted unlisted] at listed
      cases listed
    · exact absurd scalar other
  · intro other files explicit level
    have listed : origins? (guess listKey s) = some (piecesOf s) := by
      rcases scalar_or_list s with ⟨scalar, -⟩ | ⟨-, list⟩
      · exact absurd scalar other
      · rw [list]
        exact origins?_texts _
    constructor
    · intro settings loaded
      rw [load?_origins library s others level] at loaded
      obtain ⟨root, -, read⟩ := Option.bind_eq_some_iff.mp loaded
      have same := origins_read replaces read
      rw [listed] at same
      exact (Option.some.inj same).symm
    · intro settings loaded
      rw [load?_merged level] at loaded
      obtain ⟨root, merged, read⟩ := Option.bind_eq_some_iff.mp loaded
      obtain ⟨address, from_, more⟩ := read_origins replaces listed read
      refine ⟨address, from_, ?_⟩
      rw [load?_origins library s others level, merged]
      exact more
  · intro env settings set
    have listed : (Legacy.apply env settings).server.allowedOrigins = Legacy.originList s :=
      Legacy.variable_set .origins set settings
    rw [listed]
    exact originList_neat

def twoOrigins : String := "http://a.test,http://b.test"

theorem origins_variable_split_neat :
    load? .textual ⟨[], [("PATH", "/bin"), (originsVariable, twoOrigins)]⟩ none =
      some {Settings.default with server := ⟨"0.0.0.0:9000", ["http://a.test", "http://b.test"]⟩} ∧
    (Legacy.apply (fun name => if name = "ALLOWED_ORIGINS" then some twoOrigins else none) .default).server.allowedOrigins =
      ["http://a.test", "http://b.test"] := by
  have unset : ∀ entry ∈ [("PATH", "/bin")] ++ [], keyOf? entry.1 = none := by decide +kernel
  obtain ⟨-, split, agrees⟩ := origins_variable_split .textual twoOrigins [("PATH", "/bin")] [] unset
  have pieces : piecesOf twoOrigins = ["http://a.test", "http://b.test"] := by decide +kernel
  have wordless : ∀ b, Text.lower twoOrigins ≠ Value.boolText b := by decide +kernel
  have wordy : Decimal.readSigned? twoOrigins.toList = none := by decide +kernel
  have unread : Decimal.readFloating? twoOrigins.toList = none := by decide +kernel
  have other : ¬ Scalar twoOrigins := by
    rintro (word | reads | reads)
    · exact wordless _ word
    · cases wordy.symm.trans reads
    · cases unread.symm.trans reads
  have neat : Neat twoOrigins := by
    apply pieces_trimmed.mp
    decide +kernel
  have plain : load? .textual ⟨[], [("PATH", "/bin")] ++ []⟩ none = some Settings.default := by decide +kernel
  obtain ⟨address, from_, loaded⟩ := (split other [] none (leveled_unfiled .textual)).2 _ plain
  obtain rfl : address = "0.0.0.0:9000" := from_.elim id id
  rw [pieces] at loaded
  exact ⟨loaded, ((agrees _ _ rfl).mpr neat).trans pieces⟩

-- An origin that reads as a number is refused, and blanks and empty pieces stay.
theorem origins_variables_disagree : ¬ Agree .textual "8080" ∧ ¬ Agree .textual "http://a.test, http://b.test," := by
  constructor
  · rintro ⟨settings, loaded, -⟩
    have refused : load? .textual ⟨[], [(originsVariable, "8080")]⟩ none = none := by decide +kernel
    rw [refused] at loaded
    cases loaded
  · rintro ⟨settings, loaded, same⟩
    have kept : load? .textual ⟨[], [(originsVariable, "http://a.test, http://b.test,")]⟩ none =
        some {Settings.default with server := ⟨"0.0.0.0:9000", ["http://a.test", " http://b.test", ""]⟩} := by
      decide +kernel
    rw [kept] at loaded
    cases loaded
    exact absurd same (by decide +kernel)

end ToolGateway.Config
