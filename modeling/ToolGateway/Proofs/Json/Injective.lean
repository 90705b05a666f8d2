import ToolGateway.Proofs.Json.RoundTrip

namespace ToolGateway.Json

def Fitting : Json → Prop
  | .real x => x.magnitude.Fits Decimal.double
  | _ => True

def Doubles (v : Json) : Prop := ∀ u ∈ v.parts, u.Fitting

section
variable {v : Json} {items : List Json} {members : Members}

theorem doubles_array : Doubles (.array items) ↔ ∀ v ∈ items, v.Doubles := by
  rw [Doubles, every_array]
  exact and_iff_right trivial

theorem doubles_object : Doubles (.object members) ↔ ∀ m ∈ members, m.2.Doubles := by
  rw [Doubles, every_object]
  exact and_iff_right trivial

theorem doubles_real {x : Decimal.Finite} (doubles : Doubles (.real x)) : x.magnitude.Fits Decimal.double :=
  doubles (.real x) (by simp [parts])

theorem literal_fitting {l : Literal} (read : l.value? = some v) : v.Fitting := by
  rcases literal_cases read with ⟨n, rfl, _⟩ | real
  · trivial
  · obtain ⟨x, scaled, rfl⟩ := Option.map_eq_some_iff.mp real
    exact Decimal.scaled_fits scaled

theorem assured_fitting : Assured Fitting where
  null := trivial
  truth _ := trivial
  number := literal_fitting
  text _ := trivial
  array _ := trivial
  object _ := trivial

end

theorem realLiteral_shows (x : Decimal.Finite) : (realLiteral x).Shows x.negative (shownSize x.magnitude) := by
  obtain ⟨l, number, shows_⟩ := real_shows x
  rw [realLiteral, literal_complete number]
  exact shows_

theorem realLiteral_injective {x y : Decimal.Finite} (fits : x.magnitude.Fits Decimal.double)
    (other : y.magnitude.Fits Decimal.double) (same : realLiteral x = realLiteral y) : x = y := by
  have one := realLiteral_shows x
  have two := realLiteral_shows y
  rw [← same] at two
  have magnitude := shownSize_injective fits other (one.size.symm.trans two.size)
  have negative := one.sign.symm.trans two.sign
  cases x
  cases y
  cases magnitude
  cases negative
  rfl

theorem wholeLiteral_injective {m n : ℤ} (same : wholeLiteral m = wholeLiteral n) : m = n := by
  have sign : decide (m < 0) = decide (n < 0) := congrArg Literal.negative same
  have digits := congrArg (fun l => digitsValue l.whole) same
  simp only [wholeLiteral, digitsValue_toDigits] at digits
  rw [decide_eq_decide] at sign
  omega

-- A real number has a point or an exponent.
theorem wholeLiteral_real (n : ℤ) (x : Decimal.Finite) : wholeLiteral n ≠ realLiteral x := by
  intro same
  have marked := (realLiteral_shows x).marked
  rw [← same] at marked
  rcases marked with place | power
  · exact place rfl
  · exact power rfl

theorem pieces_injective {s t : String} (same : pieces s = pieces t) : s = t := by
  have read := textOf?_pieces s
  rw [same, textOf?_pieces] at read
  exact (Option.some.inj read).symm

mutual
theorem tree_injective {v w : Json} (one : v.Doubles) (two : w.Doubles) (same : v.tree = w.tree) : v = w := by
  cases v with
  | null =>
    cases w with
    | null => rfl
    | _ => cases same
  | bool b =>
    cases w with
    | bool c => cases same; rfl
    | _ => cases same
  | whole n =>
    cases w with
    | whole m => rw [wholeLiteral_injective (Tree.number.inj same)]
    | real y => exact absurd (Tree.number.inj same) (wholeLiteral_real n y)
    | _ => cases same
  | real x =>
    cases w with
    | real y => rw [realLiteral_injective (doubles_real one) (doubles_real two) (Tree.number.inj same)]
    | whole m => exact absurd (Tree.number.inj same).symm (wholeLiteral_real m x)
    | _ => cases same
  | text s =>
    cases w with
    | text t => rw [pieces_injective (Tree.text.inj same)]
    | _ => cases same
  | array items =>
    cases w with
    | array others =>
      rw [itemTrees_injective (doubles_array.mp one) (doubles_array.mp two) (Tree.array.inj same)]
    | _ => cases same
  | object members =>
    cases w with
    | object others =>
      rw [memberTrees_injective (doubles_object.mp one) (doubles_object.mp two) (Tree.object.inj same)]
    | _ => cases same
theorem itemTrees_injective {items others : List Json} (one : ∀ v ∈ items, v.Doubles) (two : ∀ v ∈ others, v.Doubles)
    (same : itemTrees items = itemTrees others) : items = others := by
  match items, others with
  | [], [] => rfl
  | [], w :: rest => cases same
  | v :: rest, [] => cases same
  | v :: rest, w :: more =>
    obtain ⟨first, later⟩ := List.cons.inj same
    rw [tree_injective (one v List.mem_cons_self) (two w List.mem_cons_self) first,
      itemTrees_injective (fun u present => one u (List.mem_cons_of_mem v present))
        (fun u present => two u (List.mem_cons_of_mem w present)) later]
theorem memberTrees_injective {members others : Members} (one : ∀ m ∈ members, m.2.Doubles)
    (two : ∀ m ∈ others, m.2.Doubles) (same : memberTrees members = memberTrees others) : members = others := by
  match members, others with
  | [], [] => rfl
  | [], w :: rest => cases same
  | (key, v) :: rest, [] => cases same
  | (key, v) :: rest, (name, w) :: more =>
    obtain ⟨first, later⟩ := List.cons.inj same
    obtain ⟨named, value⟩ := Prod.mk.inj first
    have values := tree_injective (one (key, v) List.mem_cons_self) (two (name, w) List.mem_cons_self) value
    rw [pieces_injective named, show v = w from values,
      memberTrees_injective (fun m present => one m (List.mem_cons_of_mem (key, v) present))
        (fun m present => two m (List.mem_cons_of_mem (name, w) present)) later]
end

-- Reading the text gives the tree back, so values of one text have one tree.
theorem render_injective {v w : Json} (one : v.Doubles) (two : w.Doubles) (same : v.render = w.render) : v = w := by
  have trees := ofChars?_render v
  rw [same, ofChars?_render] at trees
  exact (tree_injective two one (Option.some.inj trees)).symm

def Printed (s : List Char) : Prop := ∀ c ∈ s, ' ' ≤ c

section
variable {s t : List Char} {c : Char}

theorem printed_append : Printed (s ++ t) ↔ Printed s ∧ Printed t := List.forall_mem_append

theorem printed_cons : Printed (c :: s) ↔ ' ' ≤ c ∧ Printed s := List.forall_mem_cons

theorem printed_bare (bare : ∀ c ∈ s, isBare c = true) : Printed s := by
  intro c present
  by_contra control
  have size : c.toNat < 32 := not_le.mp control
  have every : ∀ n < 32, isBare (Char.ofNat n) = false := by decide
  have none := every c.toNat size
  rw [Char.ofNat_toNat, bare c present] at none
  cases none

theorem printed_escape (c : Char) : Printed (escapeChar c) := by
  have digits : ∀ n < 16, ' ' ≤ hexDigit n := by decide
  have coded : c < ' ' → ' ' ≤ hexDigit (c.toNat / 16) ∧ ' ' ≤ hexDigit (c.toNat % 16) := by
    intro control
    have size : c.toNat < 32 := control
    exact ⟨digits _ (by omega), digits _ (by omega)⟩
  unfold escapeChar
  split_ifs with _ _ _ _ _ _ _ control
  all_goals simp [Printed]
  · exact coded control
  · exact not_lt.mp control

theorem printed_quote (s : String) : Printed (quote s) := by
  have inside : Printed (s.toList.flatMap escapeChar) := by
    intro c present
    obtain ⟨d, _, escaped⟩ := List.mem_flatMap.mp present
    exact printed_escape d c escaped
  rw [quote, quoteChars, printed_cons, printed_append]
  exact ⟨by decide, inside, by simp [Printed]⟩

end

mutual
theorem render_printed (v : Json) : Printed v.render := by
  cases v with
  | null => simp [render, Printed]
  | bool b => cases b <;> simp [render, Printed]
  | whole n =>
    rw [render]
    exact printed_bare (wholeChars_numeral n).bare
  | real x =>
    rw [render]
    exact printed_bare (real_numeral x).bare
  | text s =>
    rw [render]
    exact printed_quote s
  | array items =>
    rw [render, printed_cons, printed_append]
    exact ⟨by decide, renderItems_printed items, by simp [Printed]⟩
  | object members =>
    rw [render, printed_cons, printed_append]
    exact ⟨by decide, renderMembers_printed members, by simp [Printed]⟩
theorem renderItems_printed (items : List Json) : Printed (renderItems items) := by
  match items with
  | [] => simp [renderItems, Printed]
  | [v] => exact render_printed v
  | v :: w :: rest =>
    rw [renderItems, printed_append, printed_cons]
    · exact ⟨render_printed v, by decide, renderItems_printed (w :: rest)⟩
    · simp
theorem renderMembers_printed (members : Members) : Printed (renderMembers members) := by
  match members with
  | [] => simp [renderMembers, Printed]
  | [(key, v)] =>
    rw [renderMembers, printed_append, printed_cons]
    exact ⟨printed_quote key, by decide, render_printed v⟩
  | (key, v) :: w :: rest =>
    rw [renderMembers, printed_append, printed_cons, printed_append, printed_cons]
    · exact ⟨printed_quote key, by decide, render_printed v, by decide, renderMembers_printed (w :: rest)⟩
    · simp
end

end ToolGateway.Json
