import Mathlib
import ToolGateway.Http.Router

namespace ToolGateway.Http

def Headers.values (headers : Headers) (name : String) : List ByteArray :=
  (headers.filter fun header => sameName header.1 name).map Prod.snd

def Admitted (configured : List String) (origin : ByteArray) : Prop :=
  star ∈ configured ∨ ∃ entry ∈ configured, isHeaderValue entry ∧ entry.toUTF8 = origin

def SameEntries (one two : List String) : Prop := ∀ entry, isHeaderValue entry → (entry ∈ one ↔ entry ∈ two)

section
variable {configured one two : List String} {name other : String} {bytes : ByteArray}

theorem isHeaderValue_star : isHeaderValue star = true := by decide +kernel

theorem rule_admits : (Rule.ofOrigins configured).admits bytes = true ↔ Admitted configured bytes := by
  by_cases starred : star ∈ configured
  · simp [Rule.ofOrigins, Rule.admits, Admitted, starred]
  · simp [Rule.ofOrigins, Rule.admits, Admitted, starred, ByteArray.ext_iff]

theorem rule_echoes (configured : List String) (asked : Option ByteArray) :
    (Rule.ofOrigins configured).answer asked = asked.filter (Rule.ofOrigins configured).admits := by
  unfold Rule.ofOrigins
  split
  · rfl
  · rfl

-- A star in the list is echoed, so that the rule that is built lists none and is none.
theorem rule_starless (configured : List String) :
    (Rule.ofOrigins configured).listsStar = false ∧ (Rule.ofOrigins configured).isStar = false := by
  by_cases starred : star ∈ configured
  · simp [Rule.ofOrigins, Rule.listsStar, Rule.isStar, starred]
  · simp [Rule.ofOrigins, Rule.listsStar, Rule.isStar, starred]

theorem fault?_none (configured : List String) : (Cors.ofOrigins configured).fault? = none := by
  obtain ⟨unlisted, unfixed⟩ := rule_starless configured
  have echoed : Rule.echoed.isStar = false := rfl
  simp [Cors.fault?, Cors.ofOrigins, unlisted, unfixed, echoed]

theorem values_append (front back : Headers) (name : String) :
    Headers.values (front ++ back) name = Headers.values front name ++ Headers.values back name := by
  rw [Headers.values, List.filter_append, List.map_append]
  rfl

theorem sameName_self (name : String) : sameName name name = true := beq_self_eq_true _

theorem values_given (name : String) (value : Option ByteArray) :
    Headers.values (Cors.given name value) name = value.toList := by
  cases value with
  | none => rfl
  | some value => simp [Headers.values, Cors.given, sameName_self]

theorem values_given_other (apart : sameName other name = false) (value : Option ByteArray) :
    Headers.values (Cors.given other value) name = [] := by
  cases value with
  | none => rfl
  | some value => simp [Headers.values, Cors.given, apart]

theorem common_values (cors : Cors) (request : Request) : Headers.values (cors.common request) Cors.allowOrigin =
    (cors.origins.answer (request.header? "origin")).toList := by
  have credentials : ∀ allowed : Bool,
      Headers.values (if allowed then Headers.ofTexts [("access-control-allow-credentials", "true")] else [])
        Cors.allowOrigin = [] := by
    decide +kernel
  have vary : Headers.values (.ofTexts [("vary", "origin, " ++ Cors.requestMethod ++ ", " ++ Cors.requestHeaders)])
      Cors.allowOrigin = [] := by
    decide +kernel
  rw [Cors.common, values_append, values_append, credentials, vary, values_given]
  rfl

theorem preflight_values (cors : Cors) (request : Request) :
    Headers.values (cors.preflight request) Cors.allowOrigin = [] := by
  rw [Cors.preflight, values_append, values_given_other (by decide +kernel), values_given_other (by decide +kernel)]
  rfl

theorem allowGet_values : Headers.values allowGet Cors.allowOrigin = [] := by decide +kernel

theorem plainText_values : Headers.values plainText Cors.allowOrigin = [] := by decide +kernel

theorem document_values : Headers.values document Cors.allowOrigin = [] := by decide +kernel

theorem route_values (route : Route) (request : Request) (upgradable : Bool) :
    Headers.values (route.respond request upgradable).headers Cors.allowOrigin = [] := by
  unfold Route.respond
  cases route with
  | unknown => rfl
  | health =>
    dsimp only
    split
    · exact document_values
    · split
      · exact document_values
      · exact allowGet_values
  | channel =>
    dsimp only
    split
    · split
      · rfl
      · exact plainText_values
    · split
      · exact plainText_values
      · exact allowGet_values

theorem respond_values (configured : List String) (request : Request) (upgradable : Bool) :
    Headers.values (respond configured request upgradable).headers Cors.allowOrigin =
      ((request.header? "origin").filter (Rule.ofOrigins configured).admits).toList := by
  have allowed : Headers.values ((Cors.ofOrigins configured).common request) Cors.allowOrigin =
      ((request.header? "origin").filter (Rule.ofOrigins configured).admits).toList := by
    rw [common_values, ← rule_echoes]
    rfl
  rw [← allowed]
  unfold respond
  dsimp only
  split
  · have allow : ∀ route : Route, Headers.values (if route = .unknown then [] else allowGet) Cors.allowOrigin = [] := by
      intro route
      split
      · rfl
      · exact allowGet_values
    rw [values_append, values_append, preflight_values, allow, List.append_nil, List.append_nil]
  · rw [values_append, route_values, List.append_nil]

theorem admitted_congr (same : SameEntries one two) : Admitted one bytes ↔ Admitted two bytes := by
  have valid_entries : ∀ list : List String, Admitted list bytes ↔
      (isHeaderValue star ∧ star ∈ list) ∨ ∃ entry, (isHeaderValue entry ∧ entry ∈ list) ∧ entry.toUTF8 = bytes := by
    intro list
    simp only [Admitted, isHeaderValue_star, true_and, and_assoc, and_left_comm]
  have members : ∀ entry, (isHeaderValue entry ∧ entry ∈ one) ↔ (isHeaderValue entry ∧ entry ∈ two) :=
    fun entry => and_congr_right (same entry)
  rw [valid_entries one, valid_entries two]
  simp only [members]

theorem respond_congr (same : SameEntries one two) : respond one = respond two := by
  have admits : ∀ bytes, (Rule.ofOrigins one).admits bytes = (Rule.ofOrigins two).admits bytes := by
    intro bytes
    rw [Bool.eq_iff_iff, rule_admits, rule_admits]
    exact admitted_congr same
  have answers : ∀ asked, (Rule.ofOrigins one).answer asked = (Rule.ofOrigins two).answer asked := by
    intro asked
    rw [rule_echoes, rule_echoes, funext admits]
  have common : ∀ request, (Cors.ofOrigins one).common request = (Cors.ofOrigins two).common request := by
    intro request
    simp only [Cors.common, Cors.ofOrigins, answers]
  funext request upgradable
  simp only [respond, common]
  rfl

theorem header?_first (method target name : String) (value : ByteArray) (rest : Headers) :
    Request.header? ⟨method, target, (name, value) :: rest⟩ name = some value := by
  simp [Request.header?, Headers.find?, sameName_self]

theorem admitted_star : Admitted configured star.toUTF8 ↔ star ∈ configured := by
  constructor
  · rintro (starred | ⟨entry, listed, -, same⟩)
    · exact starred
    · obtain rfl : entry = star := String.toByteArray_inj.mp same
      exact listed
  · exact .inl

theorem allowed_exact (asked : Option ByteArray) (value : ByteArray) :
    value ∈ asked.filter (Rule.ofOrigins configured).admits ↔ asked = some value ∧ Admitted configured value := by
  rw [Option.mem_def, Option.filter_eq_some_iff, rule_admits]

end

-- Whatever origins are configured, the gateway comes up. It allows the origin of a request, as it is given, and to those
-- that are admitted only; the star is such an origin. The list's order, repetitions and invalid entries do not matter.
theorem origins_decided (configured : List String) :
    router? configured = .ok (respond configured) ∧
    (∀ origin, (Cors.ofOrigins configured).origins.admits origin = true ↔ Admitted configured origin) ∧
    (∀ request upgradable,
      (∀ value, Headers.values (respond configured request upgradable).headers Cors.allowOrigin = [value] ↔
        request.header? "origin" = some value ∧ Admitted configured value) ∧
      (Headers.values (respond configured request upgradable).headers Cors.allowOrigin = [] ↔
        ∀ origin, request.header? "origin" = some origin → ¬ Admitted configured origin) ∧
      (star.toUTF8 ∈ Headers.values (respond configured request upgradable).headers Cors.allowOrigin ↔
        request.header? "origin" = some star.toUTF8 ∧ star ∈ configured)) ∧
    ∀ other, SameEntries configured other → respond other = respond configured := by
  refine ⟨?_, fun origin => rule_admits, ?_, fun other same => (respond_congr same).symm⟩
  · rw [router?, fault?_none]
  · intro request upgradable
    rw [respond_values]
    have allowed := @allowed_exact configured (request.header? "origin")
    refine ⟨?_, ?_, ?_⟩
    · intro value
      rw [Option.toList_eq_singleton_iff, ← Option.mem_def]
      exact allowed value
    · rw [Option.toList_eq_nil_iff, Option.eq_none_iff_forall_not_mem]
      exact forall_congr' fun origin => (not_congr (allowed origin)).trans not_and
    · rw [Option.mem_toList, ← Option.mem_def, allowed, admitted_star]

theorem origins_decided_spelled :
    Headers.values (respond ["bad\norigin", "http://a.test", "http://é.test"]
        ⟨"GET", "/health", .ofTexts [("origin", "http://é.test"), ("origin", "http://b.test")]⟩ false).headers
        Cors.allowOrigin = ["http://é.test".toUTF8] ∧
    respond ["http://é.test", "http://a.test", "http://é.test"] =
      respond ["bad\norigin", "http://a.test", "http://é.test"] := by
  obtain ⟨-, -, decided, unmoved⟩ := origins_decided ["bad\norigin", "http://a.test", "http://é.test"]
  constructor
  · apply ((decided _ _).1 _).mpr
    exact ⟨header?_first _ _ _ _ _, .inr ⟨"http://é.test", by simp, by decide +kernel, rfl⟩⟩
  · apply unmoved
    have invalid : isHeaderValue "bad\norigin" = false := by decide +kernel
    intro entry valid
    have whole : entry ≠ "bad\norigin" := by
      rintro rfl
      rw [invalid] at valid
      cases valid
    simp only [List.mem_cons, List.not_mem_nil, or_false, whole, false_or]
    tauto

theorem star_allowed :
    ¬ ∀ configured request upgradable,
      star.toUTF8 ∉ Headers.values (respond configured request upgradable).headers Cors.allowOrigin := by
  intro never
  apply never ["*"] ⟨"GET", "/health", .ofTexts [("origin", "*")]⟩ false
  rw [respond_values, Headers.ofTexts, List.map_singleton, header?_first, Option.mem_toList, ← Option.mem_def]
  exact (allowed_exact _ _).mpr ⟨rfl, .inl (List.mem_singleton.mpr rfl)⟩

end ToolGateway.Http
