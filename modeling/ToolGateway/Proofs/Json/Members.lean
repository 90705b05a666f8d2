import ToolGateway.Proofs.Json.Access
import ToolGateway.Proofs.Json.Parsing
import ToolGateway.Proofs.Json.Record

namespace ToolGateway.Json

-- The text of one object within the limits of a document, and its members in the order of the text.
def ObjectText (s : List Char) (pairs : Members) : Prop :=
  ∃ named, Padded (.object named) s ∧ memberValues? (maxDepth - 1) named = some pairs

def latest? (key : String) (pairs : Members) : Option Json := pairs.reverse.lookup key

-- Of several keys the first that is present counts, whatever its value is.
def firstOf? (keys : List String) (pairs : Members) : Option Json := keys.findSome? (latest? · pairs)

-- The members as a record is given them, each beside the member that its value has in a document.
def Built (depth : Nat) (given : List (String × Tree)) (pairs : Members) : Prop :=
  List.Forall₂ (fun read built => read.1 = built.1 ∧ read.2.value? depth = some built.2) given pairs

section
variable {s : List Char} {members pairs : Members} {named : List (Name × Tree)} {given : List (String × Tree)}
  {field : Field} {key said : String} {depth : Nat} {t : Tree} {v : Json}

theorem find?_ofList (pairs : Members) (key : String) : (Members.ofList pairs).find? key = latest? key pairs := by
  induction pairs using List.reverseRecOn with
  | nil => rfl
  | append_singleton front last ih =>
    obtain ⟨name, v⟩ := last
    rw [ofList_concat, find?_insert, latest?, List.reverse_concat, List.lookup_cons]
    by_cases same : key = name
    · rw [if_pos same, beq_iff_eq.mpr same]
    · rw [if_neg same, beq_eq_false_iff_ne.mpr same]
      exact ih

theorem given_latest (pairs : Members) {key other : String} :
    (Members.ofList pairs).Given key other v ↔ firstOf? [key, other] pairs = some v := by
  rw [← given_exact, find?_ofList, find?_ofList]
  have tried : firstOf? [key, other] pairs = (latest? key pairs).or (latest? other pairs) := by
    simp only [firstOf?, List.findSome?]
    cases latest? key pairs <;> cases latest? other pairs <;> rfl
  rw [tried]

theorem value?_object_exact :
    t.value? maxDepth = some (.object members) ↔
      ∃ named pairs, t = .object named ∧ memberValues? (maxDepth - 1) named = some pairs ∧
        members = Members.ofList pairs := by
  constructor
  · intro built
    have form := value?_shape built
    cases t with
    | object named =>
      obtain ⟨pairs, inside, same⟩ := Option.map_eq_some_iff.mp built
      cases same
      exact ⟨named, pairs, rfl, inside, rfl⟩
    | _ => cases form
  · rintro ⟨named, pairs, rfl, inside, rfl⟩
    have built : (Tree.object named).value? maxDepth = (memberValues? (maxDepth - 1) named).map record := rfl
    rw [built, inside]
    rfl

theorem parseChars?_object_exact :
    parseChars? s = some (.object members) ↔ ∃ pairs, ObjectText s pairs ∧ members = Members.ofList pairs := by
  rw [parseChars?, parseWithin?, Option.bind_eq_some_iff]
  constructor
  · rintro ⟨t, read, built⟩
    obtain ⟨named, pairs, rfl, inside, same⟩ := value?_object_exact.mp built
    exact ⟨pairs, ⟨named, ofChars?_exact.mp read, inside⟩, same⟩
  · rintro ⟨pairs, ⟨named, spelled, inside⟩, same⟩
    exact ⟨.object named, ofChars?_exact.mpr spelled, value?_object_exact.mpr ⟨named, pairs, rfl, inside, same⟩⟩

theorem memberValues?_built (inside : memberValues? depth named = some pairs) :
    ∃ given, keyed? named = some given ∧ Built depth given pairs := by
  induction named generalizing pairs with
  | nil =>
    cases inside
    exact ⟨[], rfl, .nil⟩
  | cons m rest ih =>
    obtain ⟨name, t⟩ := m
    simp only [memberValues?, Option.bind_eq_bind, Option.bind_eq_some_iff] at inside
    obtain ⟨key, unescaped, v, value, others, tail, equal⟩ := inside
    cases equal
    obtain ⟨given, keyed, built⟩ := ih tail
    rw [keyed?] at keyed
    exact ⟨(key, t) :: given, by simp [keyed?, List.mapM_cons, unescaped, keyed], .cons ⟨rfl, value⟩ built⟩

theorem Built.filter (built : Built depth given pairs) (p : String → Bool) :
    Built depth (given.filter fun m => p m.1) (pairs.filter fun m => p m.1) := by
  refine List.rel_filter (fun read made same => ?_) built
  change p read.1 = true ↔ p made.1 = true
  rw [same.1]

theorem latest?_filter {p : String → Bool} (kept : p key = true) (pairs : Members) :
    latest? key (pairs.filter fun m => p m.1) = latest? key pairs := by
  rw [latest?, latest?, ← List.filter_reverse]
  induction pairs.reverse with
  | nil => rfl
  | cons m rest ih =>
    obtain ⟨other, v⟩ := m
    by_cases same : key = other
    · subst same
      rw [List.filter_cons, if_pos kept, List.lookup_cons_self, List.lookup_cons_self]
    · rw [List.filter_cons, List.lookup_cons, beq_eq_false_iff_ne.mpr same]
      split
      · rw [List.lookup_cons, beq_eq_false_iff_ne.mpr same, ih]
      · exact ih

theorem find?_ungiven (built : Built depth given pairs) (ungiven : field.unique? given = some none)
    (named : field.named key = true) : (Members.ofList pairs).find? key = none := by
  have filtered := built.filter field.named
  unfold Field.unique? at ungiven
  split at ungiven
  · rename_i nothing
    rw [nothing] at filtered
    rw [find?_ofList, ← latest?_filter named, List.forall₂_nil_left_iff.mp filtered]
    rfl
  · cases ungiven
  · cases ungiven

-- A field that is given has one of its keys in the document, with the value of its tree, and no other.
theorem find?_given (built : Built depth given pairs) (unique : field.unique? given = some (some t)) :
    ∃ key v, field.named key = true ∧ t.value? depth = some v ∧ ∀ other, field.named other = true →
      (Members.ofList pairs).find? other = if other = key then some v else none := by
  have filtered := built.filter field.named
  unfold Field.unique? at unique
  split at unique
  · cases unique
  · rename_i key u alone
    cases unique
    have named : field.named key = true := by
      have kept : (key, t) ∈ given.filter fun m => field.named m.1 := by rw [alone]; simp
      exact (List.mem_filter.mp kept).2
    rw [alone] at filtered
    obtain ⟨⟨_, v⟩, rest, ⟨rfl, value⟩, nothing, kept⟩ := List.forall₂_cons_left_iff.mp filtered
    rw [List.forall₂_nil_left_iff.mp nothing] at kept
    refine ⟨key, v, named, value, fun other named => ?_⟩
    rw [find?_ofList, ← latest?_filter named, kept, latest?, List.reverse_singleton, List.lookup_cons]
    by_cases same : other = key
    · rw [if_pos same, beq_iff_eq.mpr same]
    · rw [if_neg same, beq_eq_false_iff_ne.mpr same]
      rfl
  · cases unique

theorem value?_text (text : t.text? = some said) : t.value? depth = some (.text said) := by
  cases t with
  | text p => exact congrArg (Option.map Json.text) text
  | _ => cases text

theorem textAt_ungiven (built : Built depth given pairs) (ungiven : Field.unique? ⟨key, []⟩ given = some none) :
    (record pairs).textAt key = none := by
  rw [textAt, record, get?, find?_ungiven built ungiven (by simp [Field.named])]
  rfl

theorem textAt_given (built : Built depth given pairs) (unique : Field.unique? ⟨key, []⟩ given = some (some t))
    (text : t.text? = some said) : (record pairs).textAt key = some said := by
  obtain ⟨other, v, named, value, found⟩ := find?_given built unique
  obtain rfl : other = key := by simpa [Field.named] using named
  rw [value?_text text] at value
  rw [textAt, record, get?, found _ named, if_pos rfl, ← Option.some.inj value]
  rfl

end

end ToolGateway.Json
