import ToolGateway.Json.Tree

namespace ToolGateway.Json

def Reader.read (reader : Reader) (tokens : List Token) : Option Tree :=
  (tokens.foldlM Reader.feed reader).bind Reader.result?

theorem Reader.read_cons {reader next : Reader} {token : Token} (fed : reader.feed token = some next)
    (rest : List Token) : reader.read (token :: rest) = next.read rest := by
  rw [Reader.read, List.foldlM_cons, fed]
  rfl

theorem tokens_head (t : Tree) : ∃ token rest, t.tokens = token :: rest ∧ token ≠ .closeArray := by
  cases t <;> exact ⟨_, _, rfl, by simp⟩

theorem itemTokens_cons (t u : Tree) (more : List Tree) :
    itemTokens (t :: u :: more) = t.tokens ++ .comma :: itemTokens (u :: more) := by
  rw [itemTokens]
  simp

theorem memberTokens_cons (name : Name) (t : Tree) (u : Name × Tree) (more : List (Name × Tree)) :
    memberTokens ((name, t) :: u :: more) =
      .text name :: .colon :: (t.tokens ++ .comma :: memberTokens (u :: more)) := by
  rw [memberTokens]
  simp

-- The first item of an array is read like every other value.
theorem read_first_item (frames : List Frame) (t : Tree) (rest : List Token) :
    (Reader.startArray frames).read (t.tokens ++ rest) = (Reader.value (.item [] :: frames)).read (t.tokens ++ rest) := by
  obtain ⟨token, more, shape, value⟩ := tokens_head t
  have same : Reader.feed (.startArray frames) token = Reader.feed (.value (.item [] :: frames)) token := by
    cases token with
    | closeArray => exact absurd rfl value
    | _ => rfl
  rw [shape, List.cons_append, Reader.read, Reader.read, List.foldlM_cons, List.foldlM_cons, same]

mutual
theorem read_tokens (t : Tree) (frames : List Frame) (rest : List Token) :
    (Reader.value frames).read (t.tokens ++ rest) = (Reader.after frames t).read rest := by
  cases t with
  | null => rfl
  | truth b => rfl
  | number l => rfl
  | text p => rfl
  | array items =>
    rw [Tree.tokens, List.cons_append, Reader.read_cons rfl, List.append_assoc, List.singleton_append]
    cases items with
    | nil => rfl
    | cons first more =>
      have inside := read_items first more [] frames rest
      cases more with
      | nil => rw [itemTokens, read_first_item]; exact inside
      | cons second others =>
        rw [itemTokens_cons, List.append_assoc, read_first_item]
        rw [itemTokens_cons, List.append_assoc] at inside
        exact inside
  | object members =>
    rw [Tree.tokens, List.cons_append, Reader.read_cons rfl, List.append_assoc, List.singleton_append]
    cases members with
    | nil => rfl
    | cons first more =>
      obtain ⟨name, t⟩ := first
      exact read_members name t more [] (.startObject frames) frames rest (fun _ => rfl)
termination_by sizeOf t
theorem read_items (t : Tree) (more before : List Tree) (frames : List Frame) (rest : List Token) :
    (Reader.value (.item before :: frames)).read (itemTokens (t :: more) ++ .closeArray :: rest) =
      (Reader.after frames (.array (before.reverse ++ t :: more))).read rest := by
  match more with
  | [] =>
    rw [itemTokens, read_tokens t, Reader.read_cons rfl]
    simp
  | u :: others =>
    have comma : Reader.feed (.after (.item before :: frames) t) .comma = some (.value (.item (t :: before) :: frames)) :=
      rfl
    rw [itemTokens_cons, List.append_assoc, read_tokens t, List.cons_append, Reader.read_cons comma,
      read_items u others (t :: before) frames rest]
    simp
termination_by sizeOf (t :: more)
theorem read_members (name : Name) (t : Tree) (more before : List (Name × Tree)) (reader : Reader)
    (frames : List Frame) (rest : List Token)
    (keyed : ∀ name, reader.feed (.text name) = some (.colon frames before name)) :
    reader.read (memberTokens ((name, t) :: more) ++ .closeObject :: rest) =
      (Reader.after frames (.object (before.reverse ++ (name, t) :: more))).read rest := by
  have colon : Reader.feed (.colon frames before name) .colon = some (.value (.member before name :: frames)) := rfl
  match more with
  | [] =>
    rw [memberTokens, List.cons_append, Reader.read_cons (keyed name), List.cons_append, Reader.read_cons colon,
      read_tokens t, Reader.read_cons rfl]
    simp
  | (next, u) :: others =>
    have comma : Reader.feed (.after (.member before name :: frames) t) .comma =
        some (.key frames ((name, t) :: before)) := rfl
    rw [memberTokens_cons, List.cons_append, Reader.read_cons (keyed name), List.cons_append, Reader.read_cons colon,
      List.append_assoc, read_tokens t, List.cons_append, Reader.read_cons comma,
      read_members next u others ((name, t) :: before) (.key frames ((name, t) :: before)) frames rest (fun _ => rfl)]
    simp
termination_by sizeOf ((name, t) :: more)
end

theorem ofTokens?_tokens (t : Tree) : Tree.ofTokens? t.tokens = some t := by
  have whole := read_tokens t [] []
  rw [List.append_nil] at whole
  exact whole

def heldMembers (before : List (Name × Tree)) : List Token :=
  .openObject :: before.reverse.flatMap fun m => .text m.1 :: .colon :: (m.2.tokens ++ [.comma])

-- What has been read inside a bracket when the next value begins.
def Frame.taken : Frame → List Token
  | .item before => .openArray :: before.reverse.flatMap fun t => t.tokens ++ [.comma]
  | .member before name => heldMembers before ++ [.text name, .colon]

def framesTaken : List Frame → List Token
  | [] => []
  | frame :: outer => framesTaken outer ++ frame.taken

-- All that a reader has read to stand where it stands.
def Reader.taken : Reader → List Token
  | .value frames => framesTaken frames
  | .startArray frames => framesTaken frames ++ [.openArray]
  | .startObject frames => framesTaken frames ++ [.openObject]
  | .key frames before => framesTaken frames ++ heldMembers before
  | .colon frames before name => framesTaken frames ++ (heldMembers before ++ [.text name])
  | .after frames t => framesTaken frames ++ t.tokens

section
variable {reader next : Reader} {token : Token} {tokens : List Token} {t : Tree}

theorem itemTokens_concat (items : List Tree) (t : Tree) :
    itemTokens (items ++ [t]) = (items.flatMap fun u => u.tokens ++ [.comma]) ++ t.tokens := by
  induction items with
  | nil => rfl
  | cons u rest ih =>
    rcases shape : rest ++ [t] with _ | ⟨v, more⟩
    · simp at shape
    · rw [List.cons_append, shape, itemTokens_cons, ← shape, ih]
      simp

theorem memberTokens_concat (members : List (Name × Tree)) (name : Name) (t : Tree) :
    memberTokens (members ++ [(name, t)]) =
      (members.flatMap fun m => .text m.1 :: .colon :: (m.2.tokens ++ [.comma])) ++ .text name :: .colon :: t.tokens := by
  induction members with
  | nil => rfl
  | cons m rest ih =>
    obtain ⟨key, u⟩ := m
    rcases shape : rest ++ [(name, t)] with _ | ⟨v, more⟩
    · simp at shape
    · rw [List.cons_append, shape, memberTokens_cons, ← shape, ih]
      simp

theorem feedValue_taken {frames : List Frame} (fed : Reader.feedValue frames token = some next) :
    next.taken = framesTaken frames ++ [token] := by
  unfold Reader.feedValue at fed
  split at fed
  all_goals cases fed
  all_goals rfl

theorem feed_taken (fed : reader.feed token = some next) : next.taken = reader.taken ++ [token] := by
  unfold Reader.feed at fed
  split at fed
  · exact feedValue_taken fed
  · cases fed
    simp [Reader.taken, Tree.tokens, itemTokens]
  · rw [feedValue_taken fed]
    rfl
  · cases fed
    simp [Reader.taken, Tree.tokens, memberTokens]
  · cases fed
    simp [Reader.taken, heldMembers]
  · cases fed
    simp [Reader.taken]
  · cases fed
    simp [Reader.taken, framesTaken, Frame.taken]
  · cases fed
    simp [Reader.taken, framesTaken, Frame.taken]
  · cases fed
    simp [Reader.taken, framesTaken, Frame.taken, Tree.tokens, itemTokens_concat]
  · cases fed
    simp [Reader.taken, framesTaken, Frame.taken, heldMembers]
  · cases fed
    simp [Reader.taken, framesTaken, Frame.taken, heldMembers, Tree.tokens, memberTokens_concat]
  · cases fed

theorem feeds_taken (fed : tokens.foldlM Reader.feed reader = some next) : next.taken = reader.taken ++ tokens := by
  induction tokens generalizing reader with
  | nil =>
    cases fed
    rw [List.append_nil]
  | cons token rest ih =>
    rw [List.foldlM_cons] at fed
    obtain ⟨middle, first, others⟩ := Option.bind_eq_some_iff.mp fed
    rw [ih others, feed_taken first, List.append_assoc, List.singleton_append]

theorem ofTokens?_exact : Tree.ofTokens? tokens = some t ↔ tokens = t.tokens := by
  constructor
  · intro read
    obtain ⟨last, fed, result⟩ := Option.bind_eq_some_iff.mp read
    have whole := feeds_taken fed
    unfold Reader.result? at result
    split at result
    · cases result
      exact whole.symm
    · cases result
  · intro same
    rw [same, ofTokens?_tokens]

end

end ToolGateway.Json
