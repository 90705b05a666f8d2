import ToolGateway.Json.Value
import ToolGateway.Proofs.Json.Number

namespace ToolGateway.Json

mutual
def parts : Json → List Json
  | .array items => .array items :: itemParts items
  | .object members => .object members :: memberParts members
  | v => [v]
def itemParts : List Json → List Json
  | [] => []
  | v :: rest => v.parts ++ itemParts rest
def memberParts : List (String × Json) → List Json
  | [] => []
  | (_, v) :: rest => v.parts ++ memberParts rest
end

-- How many brackets stand around the innermost value.
mutual
def nesting : Json → Nat
  | .array items => itemNesting items + 1
  | .object members => memberNesting members + 1
  | _ => 0
def itemNesting : List Json → Nat
  | [] => 0
  | v :: rest => max v.nesting (itemNesting rest)
def memberNesting : List (String × Json) → Nat
  | [] => 0
  | (_, v) :: rest => max v.nesting (memberNesting rest)
end

def isReal : Json → Bool
  | .real _ => true
  | _ => false

inductive Shape where
  | null
  | truth
  | number
  | text
  | array
  | object

def shape : Json → Shape
  | .null => .null
  | .bool _ => .truth
  | .whole _ => .number
  | .real _ => .number
  | .text _ => .text
  | .array _ => .array
  | .object _ => .object

def Tree.shape : Tree → Shape
  | .null => .null
  | .truth _ => .truth
  | .number _ => .number
  | .text _ => .text
  | .array _ => .array
  | .object _ => .object

def Members.Sorted (members : Members) : Prop := (members.map Prod.fst).Pairwise (· < ·)

-- What reading makes sure of, at one value alone.
def Orderly : Json → Prop
  | .whole n => Bounded n
  | .object members => Members.Sorted members
  | _ => True

def Canonical (v : Json) : Prop := ∀ u ∈ v.parts, u.Orderly

def Integral (v : Json) : Prop := ∀ u ∈ v.parts, u.isReal = false

section
variable {v : Json} {items : List Json} {members : Members} {key : String} {depth : Nat}

theorem mem_itemParts {u : Json} : u ∈ itemParts items ↔ ∃ v ∈ items, u ∈ v.parts := by
  induction items with
  | nil => simp [itemParts]
  | cons v rest ih => simp [itemParts, ih]

theorem mem_memberParts {u : Json} : u ∈ memberParts members ↔ ∃ m ∈ members, u ∈ m.2.parts := by
  induction members with
  | nil => simp [memberParts]
  | cons m rest ih => obtain ⟨key, v⟩ := m; simp [memberParts, ih]

theorem itemNesting_le : itemNesting items ≤ depth ↔ ∀ v ∈ items, v.nesting ≤ depth := by
  induction items with
  | nil => simp [itemNesting]
  | cons v rest ih => simp [itemNesting, ih]

theorem memberNesting_le : memberNesting members ≤ depth ↔ ∀ m ∈ members, m.2.nesting ≤ depth := by
  induction members with
  | nil => simp [memberNesting]
  | cons m rest ih => obtain ⟨key, v⟩ := m; simp [memberNesting, ih]

theorem find?_insert (key other : String) (v : Json) (members : Members) :
    Members.find? other (Members.insert key v members) =
      if other = key then some v else Members.find? other members := by
  induction members with
  | nil => rfl
  | cons m rest ih =>
    obtain ⟨k, u⟩ := m
    by_cases before : key < k
    · simp only [Members.insert, if_pos before, Members.find?]
    · by_cases same : key = k
      · subst same
        simp only [Members.insert, if_neg before, if_true, Members.find?]
        split <;> rfl
      · simp only [Members.insert, if_neg before, if_neg same, Members.find?, ih]
        by_cases here : other = k
        · rw [if_pos here, if_pos here, if_neg fun equal => same (equal.symm.trans here)]
        · rw [if_neg here, if_neg here]

theorem mem_insert {m : String × Json} (present : m ∈ Members.insert key v members) :
    m = (key, v) ∨ m ∈ members := by
  induction members with
  | nil => exact .inl (List.mem_singleton.mp present)
  | cons first rest ih =>
    obtain ⟨k, u⟩ := first
    unfold Members.insert at present
    split at present
    · exact List.mem_cons.mp present
    · split at present
      · rcases List.mem_cons.mp present with new | old
        · exact .inl new
        · exact .inr (List.mem_cons_of_mem _ old)
      · rcases List.mem_cons.mp present with first | later
        · exact .inr (first ▸ List.mem_cons_self)
        · exact (ih later).imp id (List.mem_cons_of_mem _)

theorem sorted_cons {m : String × Json} :
    Members.Sorted (m :: members) ↔ (∀ other ∈ members, m.1 < other.1) ∧ Members.Sorted members := by
  simp [Members.Sorted]

theorem sorted_insert (key : String) (v : Json) (sorted : Members.Sorted members) :
    Members.Sorted (Members.insert key v members) := by
  induction members with
  | nil => simp [Members.insert, Members.Sorted]
  | cons first rest ih =>
    obtain ⟨k, u⟩ := first
    obtain ⟨least, tail⟩ := sorted_cons.mp sorted
    unfold Members.insert
    split
    · rename_i before
      refine sorted_cons.mpr ⟨fun other present => ?_, sorted⟩
      rcases List.mem_cons.mp present with rfl | later
      · exact before
      · exact String.lt_trans before (least other later)
    · rename_i notBefore
      split
      · rename_i same
        exact sorted_cons.mpr ⟨fun other present => same ▸ least other present, tail⟩
      · rename_i different
        have after : k < key := by
          rcases String.le_total k key with below | above
          · exact String.not_le.mp fun equal => different (String.le_antisymm equal below)
          · exact absurd (String.not_le.mp fun equal => different (String.le_antisymm above equal)) notBefore
        refine sorted_cons.mpr ⟨fun other present => ?_, ih tail⟩
        rcases mem_insert present with rfl | old
        · exact after
        · exact least other old

-- Insertion keeps what is already there in order, so this is an induction from the end of the list.
theorem ofList_concat (members : Members) (m : String × Json) :
    Members.ofList (members ++ [m]) = Members.insert m.1 m.2 (Members.ofList members) := by
  simp [Members.ofList]

theorem mem_ofList {m : String × Json} (present : m ∈ Members.ofList members) : m ∈ members := by
  induction members using List.reverseRecOn with
  | nil => exact present
  | append_singleton front last ih =>
    rw [ofList_concat] at present
    rcases mem_insert present with rfl | old
    · simp
    · exact List.mem_append_left _ (ih old)

theorem sorted_ofList (members : Members) : Members.Sorted (Members.ofList members) := by
  induction members using List.reverseRecOn with
  | nil => exact .nil
  | append_singleton front last ih =>
    rw [ofList_concat]
    exact sorted_insert _ _ ih

theorem insert_last {m : String × Json} (after : ∀ other ∈ members, other.1 < m.1) :
    Members.insert m.1 m.2 members = members ++ [m] := by
  induction members with
  | nil => rfl
  | cons first rest ih =>
    obtain ⟨k, u⟩ := first
    have below : k < m.1 := after (k, u) (by simp)
    have same : m.1 ≠ k := fun equal => String.lt_irrefl k (equal ▸ below)
    rw [Members.insert, if_neg (String.lt_asymm below), if_neg same,
      ih fun other present => after other (by simp [present])]
    rfl

theorem ofList_sorted (sorted : Members.Sorted members) : Members.ofList members = members := by
  induction members using List.reverseRecOn with
  | nil => rfl
  | append_singleton front last ih =>
    simp only [Members.Sorted, List.map_append, List.pairwise_append, List.map_cons, List.map_nil] at sorted
    obtain ⟨before, _, below⟩ := sorted
    rw [ofList_concat, ih before, insert_last]
    exact fun other present => below other.1 (List.mem_map_of_mem present) last.1 (by simp)

theorem every_array {p : Json → Prop} :
    (∀ u ∈ (Json.array items).parts, p u) ↔ p (.array items) ∧ ∀ v ∈ items, ∀ u ∈ v.parts, p u := by
  simp only [parts, List.mem_cons, forall_eq_or_imp, mem_itemParts]
  exact and_congr_right fun _ => ⟨fun every v present u part => every u ⟨v, present, part⟩,
    fun every u ⟨v, present, part⟩ => every v present u part⟩

theorem every_object {p : Json → Prop} :
    (∀ u ∈ (Json.object members).parts, p u) ↔ p (.object members) ∧ ∀ m ∈ members, ∀ u ∈ m.2.parts, p u := by
  simp only [parts, List.mem_cons, forall_eq_or_imp, mem_memberParts]
  exact and_congr_right fun _ => ⟨fun every v present u part => every u ⟨v, present, part⟩,
    fun every u ⟨v, present, part⟩ => every v present u part⟩

theorem canonical_array : Canonical (.array items) ↔ ∀ v ∈ items, v.Canonical := by
  rw [Canonical, every_array]
  exact and_iff_right trivial

theorem canonical_object : Canonical (.object members) ↔ Members.Sorted members ∧ ∀ m ∈ members, m.2.Canonical :=
  every_object

theorem mem_of_find? (found : Members.find? key members = some v) : (key, v) ∈ members := by
  induction members with
  | nil => cases found
  | cons first rest ih =>
    obtain ⟨k, u⟩ := first
    unfold Members.find? at found
    split at found
    · rename_i same
      rw [same, Option.some.inj found]
      exact List.mem_cons_self
    · exact List.mem_cons_of_mem _ (ih found)

theorem canonical_get? {u : Json} (canonical : Canonical v) (present : v.get? key = some u) : Canonical u := by
  cases v with
  | object members => exact (canonical_object.mp canonical).2 (key, u) (mem_of_find? present)
  | _ => cases present

theorem canonical_record (inside : ∀ m ∈ members, m.2.Canonical) : Canonical (record members) :=
  canonical_object.mpr ⟨sorted_ofList members, fun m present => inside m (mem_ofList present)⟩

theorem nesting_array : (Json.array items).nesting ≤ depth + 1 ↔ ∀ v ∈ items, v.nesting ≤ depth := by
  rw [nesting, Nat.add_le_add_iff_right, itemNesting_le]

theorem nesting_object : (Json.object members).nesting ≤ depth + 1 ↔ ∀ m ∈ members, m.2.nesting ≤ depth := by
  rw [nesting, Nat.add_le_add_iff_right, memberNesting_le]

theorem nesting_record (inside : ∀ m ∈ members, m.2.nesting ≤ depth) : (record members).nesting ≤ depth + 1 :=
  nesting_object.mpr fun m present => inside m (mem_ofList present)

theorem every_scalar {p : Json → Prop} (alone : v.parts = [v]) (one : p v) : ∀ u ∈ v.parts, p u := by
  intro u part
  rw [alone] at part
  rwa [List.mem_singleton.mp part]

theorem canonical_scalar (alone : v.parts = [v]) (orderly : v.Orderly) : Canonical v := every_scalar alone orderly

theorem literal_cases {l : Literal} (read : l.value? = some v) :
    (∃ n, v = .whole n ∧ Bounded n) ∨ l.real? = some v := by
  have bounds : wholeLow < 0 ∧ 0 < wholeHigh := by decide
  unfold Literal.value? at read
  simp only at read
  split at read
  · split at read
    · split at read
      · cases read
        exact .inl ⟨_, rfl, by omega, by omega⟩
      · exact .inr read
    · split at read
      · cases read
        exact .inl ⟨_, rfl, by omega, by omega⟩
      · exact .inr read
  · exact .inr read

theorem literal_number {l : Literal} (read : l.value? = some v) :
    (∃ n, v = .whole n ∧ Bounded n) ∨ ∃ x, v = .real x := by
  rcases literal_cases read with whole | real
  · exact .inl whole
  · obtain ⟨x, _, rfl⟩ := Option.map_eq_some_iff.mp real
    exact .inr ⟨_, rfl⟩

-- What is so of one value alone, of whatever tree it is the value.
structure Assured (p : Json → Prop) : Prop where
  null : p .null
  truth (b : Bool) : p (.bool b)
  number {l : Literal} {v : Json} (read : l.value? = some v) : p v
  text (s : String) : p (.text s)
  array (items : List Json) : p (.array items)
  object {members : Members} (sorted : Members.Sorted members) : p (.object members)

mutual
theorem value?_every {p : Json → Prop} {t : Tree} {v : Json} {depth : Nat} (assured : Assured p)
    (read : t.value? depth = some v) : (∀ u ∈ v.parts, p u) ∧ v.nesting ≤ depth := by
  cases t with
  | null =>
    cases read
    exact ⟨every_scalar rfl assured.null, Nat.zero_le _⟩
  | truth b =>
    cases read
    exact ⟨every_scalar rfl (assured.truth b), Nat.zero_le _⟩
  | number l =>
    have one := assured.number read
    rcases literal_number read with ⟨n, rfl, _⟩ | ⟨x, rfl⟩
    · exact ⟨every_scalar rfl one, Nat.zero_le _⟩
    · exact ⟨every_scalar rfl one, Nat.zero_le _⟩
  | text p =>
    obtain ⟨s, _, rfl⟩ := Option.map_eq_some_iff.mp read
    exact ⟨every_scalar rfl (assured.text s), Nat.zero_le _⟩
  | array items =>
    cases depth with
    | zero => cases read
    | succ depth =>
      obtain ⟨values, inside, rfl⟩ := Option.map_eq_some_iff.mp read
      have every := itemValues?_every assured inside
      exact ⟨every_array.mpr ⟨assured.array values, fun v present => (every v present).1⟩,
        nesting_array.mpr fun v present => (every v present).2⟩
  | object members =>
    cases depth with
    | zero => cases read
    | succ depth =>
      obtain ⟨values, inside, rfl⟩ := Option.map_eq_some_iff.mp read
      have every := memberValues?_every assured inside
      exact ⟨every_object.mpr ⟨assured.object (sorted_ofList values), fun m present => (every m (mem_ofList present)).1⟩,
        nesting_record fun m present => (every m present).2⟩
theorem itemValues?_every {p : Json → Prop} {items : List Tree} {values : List Json} {depth : Nat} (assured : Assured p)
    (read : itemValues? depth items = some values) : ∀ v ∈ values, (∀ u ∈ v.parts, p u) ∧ v.nesting ≤ depth := by
  cases items with
  | nil => cases read; simp
  | cons t rest =>
    simp only [itemValues?, Option.bind_eq_bind, Option.bind_eq_some_iff] at read
    obtain ⟨first, head, others, tail, equal⟩ := read
    cases equal
    intro v present
    rcases List.mem_cons.mp present with rfl | later
    · exact value?_every assured head
    · exact itemValues?_every assured tail v later
theorem memberValues?_every {p : Json → Prop} {members : List (Name × Tree)} {values : Members} {depth : Nat}
    (assured : Assured p) (read : memberValues? depth members = some values) :
    ∀ m ∈ values, (∀ u ∈ m.2.parts, p u) ∧ m.2.nesting ≤ depth := by
  cases members with
  | nil => cases read; simp
  | cons m rest =>
    obtain ⟨name, t⟩ := m
    simp only [memberValues?, Option.bind_eq_bind, Option.bind_eq_some_iff] at read
    obtain ⟨key, _, first, head, others, tail, equal⟩ := read
    cases equal
    intro v present
    rcases List.mem_cons.mp present with rfl | later
    · exact value?_every assured head
    · exact memberValues?_every assured tail v later
end

theorem assured_orderly : Assured Orderly where
  null := trivial
  truth _ := trivial
  number read := by
    rcases literal_number read with ⟨n, rfl, bounded⟩ | ⟨x, rfl⟩
    · exact bounded
    · trivial
  text _ := trivial
  array _ := trivial
  object sorted := sorted

theorem value?_canonical {t : Tree} (read : t.value? depth = some v) : Canonical v ∧ v.nesting ≤ depth :=
  value?_every assured_orderly read

theorem parseChars?_canonical {s : List Char} (read : parseChars? s = some v) : Canonical v ∧ v.nesting ≤ maxDepth := by
  obtain ⟨t, _, value⟩ := Option.bind_eq_some_iff.mp read
  exact value?_canonical value

theorem value?_shape {t : Tree} (read : t.value? depth = some v) : t.shape = v.shape := by
  cases t with
  | null =>
    cases read
    rfl
  | truth b =>
    cases read
    rfl
  | number l =>
    rcases literal_number read with ⟨n, rfl, _⟩ | ⟨x, rfl⟩
    · rfl
    · rfl
  | text p =>
    obtain ⟨s, _, rfl⟩ := Option.map_eq_some_iff.mp read
    rfl
  | array items =>
    cases depth with
    | zero => cases read
    | succ depth =>
      obtain ⟨values, _, rfl⟩ := Option.map_eq_some_iff.mp read
      rfl
  | object members =>
    cases depth with
    | zero => cases read
    | succ depth =>
      obtain ⟨values, _, rfl⟩ := Option.map_eq_some_iff.mp read
      rfl

end

end ToolGateway.Json
