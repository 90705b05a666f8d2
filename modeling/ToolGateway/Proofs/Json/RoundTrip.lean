import ToolGateway.Proofs.Json.Canonical
import ToolGateway.Proofs.Json.Reading
import ToolGateway.Proofs.Json.Spelling

namespace ToolGateway.Json

theorem ofChars?_render (v : Json) : Tree.ofChars? v.render = some v.tree := by
  rw [Tree.ofChars?, tokens?_render]
  exact ofTokens?_tokens v.tree

theorem ofChars?_compact (v : Json) : Tree.ofChars? (compact v).toList = some v.tree := by
  rw [compact, String.toList_ofList, ofChars?_render]

-- A code unit that is no surrogate stands for itself, whatever comes next.
theorem textChars?_unit {code : Nat} (alone : ¬ (0xD800 ≤ code ∧ code < 0xE000)) (rest : List Piece) :
    textChars? (.unit code :: rest) = (textChars? rest).map (Char.ofNat code :: ·) := by
  have notHigh : isHigh code = false := by simp [isHigh]; omega
  have notLow : isLow code = false := by simp [isLow]; omega
  rcases rest with _ | ⟨_ | _, _⟩ <;> simp [textChars?, notHigh, notLow]

theorem textChars?_pieceOf (c : Char) (rest : List Piece) :
    textChars? (pieceOf c :: rest) = (textChars? rest).map (c :: ·) := by
  unfold pieceOf
  split
  · rename_i control
    have size : c.toNat < 32 := control.1
    rw [textChars?_unit (by omega), Char.ofNat_toNat]
  · simp only [textChars?]

theorem textOf?_pieces (s : String) : textOf? (pieces s) = some s := by
  have read (chars : List Char) : textChars? (chars.map pieceOf) = some chars := by
    induction chars with
    | nil => rfl
    | cons c rest ih => rw [List.map_cons, textChars?_pieceOf, ih]; rfl
  rw [textOf?, pieces, read, Option.map_some, String.ofList_toList]

-- What a text carries unchanged.
structure Portable (depth : Nat) (v : Json) : Prop where
  canonical : Canonical v
  integral : Integral v
  shallow : v.nesting ≤ depth

section
variable {v : Json} {items : List Json} {members : Members} {depth : Nat}

theorem Portable.of_items (portable : Portable (depth + 1) (.array items)) : ∀ v ∈ items, Portable depth v :=
  fun v present => ⟨canonical_array.mp portable.canonical v present, (every_array.mp portable.integral).2 v present,
    nesting_array.mp portable.shallow v present⟩

theorem Portable.of_members (portable : Portable (depth + 1) (.object members)) : ∀ m ∈ members, Portable depth m.2 :=
  fun m present => ⟨(canonical_object.mp portable.canonical).2 m present,
    (every_object.mp portable.integral).2 m present, nesting_object.mp portable.shallow m present⟩

theorem portable_record (inside : ∀ m ∈ members, Portable depth m.2) : Portable (depth + 1) (record members) where
  canonical := canonical_record fun m present => (inside m present).canonical
  integral := every_object.mpr ⟨rfl, fun m present => (inside m (mem_ofList present)).integral⟩
  shallow := nesting_record fun m present => (inside m present).shallow

theorem portable_array (inside : ∀ v ∈ items, Portable depth v) : Portable (depth + 1) (.array items) where
  canonical := canonical_array.mpr fun v present => (inside v present).canonical
  integral := every_array.mpr ⟨rfl, fun v present => (inside v present).integral⟩
  shallow := nesting_array.mpr fun v present => (inside v present).shallow

theorem portable_text (s : String) (depth : Nat) : Portable depth (.text s) :=
  ⟨canonical_scalar rfl trivial, by simp [Integral, parts, isReal], Nat.zero_le depth⟩

mutual
theorem value?_tree {v : Json} {depth : Nat} (portable : Portable depth v) : v.tree.value? depth = some v := by
  cases v with
  | null => rfl
  | bool b => rfl
  | whole n => exact value?_wholeLiteral (portable.canonical (.whole n) (by simp [parts]))
  | real x => cases portable.integral (.real x) (by simp [parts])
  | text s => rw [tree, Tree.value?, textOf?_pieces]; rfl
  | array items =>
    cases depth with
    | zero => cases portable.shallow
    | succ depth => rw [tree, Tree.value?, itemValues?_trees portable.of_items]; rfl
  | object members =>
    cases depth with
    | zero => cases portable.shallow
    | succ depth =>
      rw [tree, Tree.value?, memberValues?_trees portable.of_members, Option.map_some, record,
        ofList_sorted (canonical_object.mp portable.canonical).1]
theorem itemValues?_trees {items : List Json} {depth : Nat} (inside : ∀ v ∈ items, Portable depth v) :
    itemValues? depth (itemTrees items) = some items := by
  match items with
  | [] => rfl
  | v :: rest =>
    rw [itemTrees, itemValues?, value?_tree (inside v (by simp)),
      itemValues?_trees fun u present => inside u (List.mem_cons_of_mem v present)]
    rfl
theorem memberValues?_trees {members : Members} {depth : Nat} (inside : ∀ m ∈ members, Portable depth m.2) :
    memberValues? depth (memberTrees members) = some members := by
  match members with
  | [] => rfl
  | (key, v) :: rest =>
    rw [memberTrees, memberValues?, textOf?_pieces, value?_tree (inside (key, v) (by simp)),
      memberValues?_trees fun m present => inside m (List.mem_cons_of_mem (key, v) present)]
    rfl
end

theorem parse?_eq (v : Json) : parse? (compact v) = v.tree.value? maxDepth := by
  rw [parse?, parseChars?, parseWithin?, ofChars?_compact]
  rfl

theorem parse?_compact (portable : Portable maxDepth v) : parse? (compact v) = some v := by
  rw [parse?_eq, value?_tree portable]

theorem parse?_members (inside : ∀ m ∈ members, Portable (maxDepth - 1) m.2) :
    parse? (compact (.object members)) = some (record members) := by
  rw [parse?_eq, tree, show maxDepth = maxDepth - 1 + 1 from rfl, Tree.value?, memberValues?_trees inside,
    Option.map_some]

end

end ToolGateway.Json
