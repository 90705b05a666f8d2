namespace ToolGateway.Text

def cut (pattern : List Char) : List Char → Option (List Char × List Char)
  | [] => if pattern.isEmpty then some ([], []) else none
  | c :: rest =>
    if pattern.isPrefixOf (c :: rest) then some ([], (c :: rest).drop pattern.length)
    else (cut pattern rest).map fun (before, after) => (c :: before, after)

theorem cut_eq {pattern s before after : List Char} (found : cut pattern s = some (before, after)) :
    s = before ++ pattern ++ after := by
  induction s generalizing before with
  | nil =>
    cases pattern with
    | nil => simp [cut] at found; simp [found]
    | cons => simp [cut] at found
  | cons c rest ih =>
    unfold cut at found
    split at found
    · rename_i start
      obtain ⟨rfl, rfl⟩ := Prod.mk.inj (Option.some.inj found)
      obtain ⟨tail, whole⟩ := List.isPrefixOf_iff_prefix.mp start
      rw [← whole]
      simp
    · obtain ⟨⟨b, a⟩, inner, same⟩ := Option.map_eq_some_iff.mp found
      obtain ⟨rfl, rfl⟩ := Prod.mk.inj same
      simp [ih inner]

def cutLast (sep : Char) (s : List Char) : Option (List Char × List Char) :=
  let after := (s.reverse.takeWhile (· != sep)).reverse
  match s.reverse.dropWhile (· != sep) with
  | [] => none
  | _ :: before => some (before.reverse, after)

theorem cutLast_eq {sep : Char} {s before after : List Char}
    (found : cutLast sep s = some (before, after)) : s = before ++ sep :: after := by
  unfold cutLast at found
  have whole := List.takeWhile_append_dropWhile (p := (· != sep)) (l := s.reverse)
  split at found
  · cases found
  · rename_i c front dropped
    obtain ⟨rfl, rfl⟩ := Prod.mk.inj (Option.some.inj found)
    have stop : (c != sep) = false := by
      have := List.head?_dropWhile_not (· != sep) s.reverse
      rw [dropped] at this
      simpa using this
    have same : c = sep := by simpa using stop
    rw [dropped, same] at whole
    have := congrArg List.reverse whole
    simpa using this.symm

-- The fields between separators: always at least one, and one more than there are separators.
def fields (sep : Char) : List Char → List (List Char)
  | [] => [[]]
  | c :: rest =>
    if c = sep then [] :: fields sep rest
    else match fields sep rest with
      | [] => [[c]]
      | field :: more => (c :: field) :: more

theorem fields_ne_nil (sep : Char) (s : List Char) : fields sep s ≠ [] := by
  cases s with
  | nil => simp [fields]
  | cons c rest =>
    unfold fields
    split
    · simp
    · split <;> simp

def dropStart? (start s : List Char) : Option (List Char) :=
  if start.isPrefixOf s then some (s.drop start.length) else none

-- Every occurrence of the pattern, from the left and without overlaps, becomes `by`; `skip` counts
-- the characters of an occurrence that are still to be passed over.
def replaceFrom (pattern new : List Char) : Nat → List Char → List Char
  | _, [] => []
  | skip + 1, _ :: rest => replaceFrom pattern new skip rest
  | 0, c :: rest =>
    if pattern.isPrefixOf (c :: rest) then new ++ replaceFrom pattern new (pattern.length - 1) rest
    else c :: replaceFrom pattern new 0 rest

def replace (pattern new s : List Char) : List Char := replaceFrom pattern new 0 s

end ToolGateway.Text
