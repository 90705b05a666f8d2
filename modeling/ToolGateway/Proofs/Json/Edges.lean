import ToolGateway.Proofs.Json.Canonical
import ToolGateway.Proofs.Json.Reading
import ToolGateway.Proofs.Json.Spelling
import ToolGateway.Proofs.Text.Trim

namespace ToolGateway.Json

def Token.plain : Token → Bool
  | .null => true
  | .truth _ => true
  | .number _ => true
  | .text _ => true
  | _ => false

section
variable {lexer next : Lexer} {s rest : List Char} {tokens known front more : List Token} {mark : Token} {c : Char}

theorem bareToken?_plain {word : List Char} {token : Token} (read : bareToken? word = some token) :
    token.plain = true := by
  unfold bareToken? at read
  split at read
  · cases read
    rfl
  · split at read
    · cases read
      rfl
    · split at read
      · cases read
        rfl
      · obtain ⟨l, _, rfl⟩ := Option.map_eq_some_iff.mp read
        rfl

theorem Lexer.read_split (read : lexer.read (c :: rest) = some tokens) :
    ∃ next, lexer.feed c = some next ∧ next.read rest = some tokens := by
  rw [Lexer.read, List.foldlM_cons] at read
  obtain ⟨last, fed, finished⟩ := Option.bind_eq_some_iff.mp read
  obtain ⟨next, first, others⟩ := Option.bind_eq_some_iff.mp fed
  refine ⟨next, first, ?_⟩
  rw [Lexer.read, others]
  exact finished

theorem next_cases (fed : Lexer.next known c = some next) :
    (isSpace c = true ∧ next = ⟨.between, known⟩) ∨ (c = '"' ∧ next = ⟨.text [], known⟩) ∨ next = ⟨.bare [c], known⟩ ∨
      ∃ mark, punctuation? c = some mark ∧ next = ⟨.between, mark :: known⟩ := by
  unfold Lexer.next at fed
  split at fed
  · cases fed
    exact .inl ⟨‹_›, rfl⟩
  · split at fed
    · cases fed
      exact .inr (.inl ⟨‹_›, rfl⟩)
    · split at fed
      · cases fed
        exact .inr (.inr (.inl rfl))
      · obtain ⟨mark, found, rfl⟩ := Option.map_eq_some_iff.mp fed
        exact .inr (.inr (.inr ⟨mark, found, rfl⟩))

theorem next_tokens (fed : Lexer.next known c = some next) :
    next.tokens = known ∨ ∃ mark, next.tokens = mark :: known := by
  rcases next_cases fed with ⟨_, rfl⟩ | ⟨_, rfl⟩ | rfl | ⟨mark, _, rfl⟩
  · exact .inl rfl
  · exact .inl rfl
  · exact .inl rfl
  · exact .inr ⟨mark, rfl⟩

-- Tokens are only added, and what has begun becomes a plain token before anything else is added.
theorem feed_tokens (fed : lexer.feed c = some next) :
    (next.tokens = lexer.tokens ∧ (lexer.mode ≠ .between → next.mode ≠ .between)) ∨
      (∃ token, next.tokens = token :: lexer.tokens ∧ (lexer.mode ≠ .between → token.plain = true)) ∨
      ∃ mark token, next.tokens = mark :: token :: lexer.tokens ∧ token.plain = true := by
  obtain ⟨mode, known⟩ := lexer
  cases mode with
  | between =>
    have between : Lexer.next known c = some next := fed
    rcases next_tokens between with same | ⟨mark, added⟩
    · exact .inl ⟨same, fun moved => absurd rfl moved⟩
    · exact .inr (.inl ⟨mark, added, fun moved => absurd rfl moved⟩)
  | bare word =>
    simp only [Lexer.feed] at fed
    split at fed
    · cases fed
      exact .inl ⟨rfl, fun _ => by simp⟩
    · obtain ⟨token, spelled, after⟩ := Option.bind_eq_some_iff.mp fed
      have plain := bareToken?_plain spelled
      rcases next_tokens after with same | ⟨mark, added⟩
      · exact .inr (.inl ⟨token, same, fun _ => plain⟩)
      · exact .inr (.inr ⟨mark, token, added, plain⟩)
  | text pieces =>
    simp only [Lexer.feed] at fed
    split at fed
    · cases fed
      exact .inr (.inl ⟨_, rfl, fun _ => rfl⟩)
    · split at fed
      · cases fed
        exact .inl ⟨rfl, fun _ => by simp⟩
      · split at fed
        · cases fed
        · cases fed
          exact .inl ⟨rfl, fun _ => by simp⟩
  | escape pieces =>
    simp only [Lexer.feed] at fed
    split at fed
    · cases fed
      exact .inl ⟨rfl, fun _ => by simp⟩
    · obtain ⟨_, _, rfl⟩ := Option.map_eq_some_iff.mp fed
      exact .inl ⟨rfl, fun _ => by simp⟩
  | code pieces left value =>
    simp only [Lexer.feed] at fed
    obtain ⟨d, _, rfl⟩ := Option.map_eq_some_iff.mp fed
    cases left with
    | zero => exact .inl ⟨rfl, fun _ => by simp⟩
    | succ left => exact .inl ⟨rfl, fun _ => by simp⟩

theorem read_adds (read : lexer.read s = some tokens) :
    ∃ more, tokens = lexer.tokens.reverse ++ more ∧
      (lexer.mode ≠ .between → ∃ token rest, more = token :: rest ∧ token.plain = true) := by
  induction s generalizing lexer with
  | nil =>
    obtain ⟨mode, known⟩ := lexer
    have finished : Lexer.finish ⟨mode, known⟩ = some tokens := read
    cases mode with
    | between =>
      cases finished
      exact ⟨[], (List.append_nil _).symm, fun moved => absurd rfl moved⟩
    | bare word =>
      obtain ⟨token, spelled, rfl⟩ := Option.map_eq_some_iff.mp finished
      exact ⟨[token], List.reverse_cons, fun _ => ⟨token, [], rfl, bareToken?_plain spelled⟩⟩
    | text pieces => cases finished
    | escape pieces => cases finished
    | code pieces left value => cases finished
  | cons c rest ih =>
    obtain ⟨next, fed, others⟩ := Lexer.read_split read
    obtain ⟨more, whole, begun⟩ := ih others
    rcases feed_tokens fed with ⟨same, stays⟩ | ⟨token, added, plain⟩ | ⟨mark, token, added, plain⟩
    · rw [same] at whole
      exact ⟨more, whole, fun moved => begun (stays moved)⟩
    · rw [added, List.reverse_cons, List.append_assoc] at whole
      exact ⟨_, whole, fun moved => ⟨token, more, rfl, plain moved⟩⟩
    · rw [added, List.reverse_cons, List.reverse_cons, List.append_assoc, List.append_assoc] at whole
      exact ⟨_, whole, fun _ => ⟨token, _, rfl, plain⟩⟩

theorem punctuation?_open (mark : punctuation? c = some .openObject) : c = '\x7b' := by
  unfold punctuation? at mark
  split at mark
  all_goals cases mark
  rfl

theorem punctuation?_close (mark : punctuation? c = some .closeObject) : c = '\x7d' := by
  unfold punctuation? at mark
  split at mark
  all_goals cases mark
  rfl

theorem first_bracket (read : tokens? (c :: rest) = some (.openObject :: more)) (solid : isSpace c = false) :
    c = '\x7b' := by
  obtain ⟨next, fed, others⟩ := Lexer.read_split ((tokens?_eq_read _).symm.trans read)
  obtain ⟨added, whole, begun⟩ := read_adds others
  have between : Lexer.next [] c = some next := fed
  rcases next_cases between with ⟨space, _⟩ | ⟨_, rfl⟩ | rfl | ⟨mark, found, rfl⟩
  · rw [solid] at space
    cases space
  · obtain ⟨token, tail, rfl, plain⟩ := begun (by simp)
    cases whole
    cases plain
  · obtain ⟨token, tail, rfl, plain⟩ := begun (by simp)
    cases whole
    cases plain
  · cases whole
    exact punctuation?_open found

theorem next_last (fed : Lexer.next known c = some next) (finished : next.finish = some (front ++ [.closeObject]))
    (solid : isSpace c = false) : c = '\x7d' := by
  rcases next_cases fed with ⟨space, _⟩ | ⟨_, rfl⟩ | rfl | ⟨mark, found, rfl⟩
  · rw [solid] at space
    cases space
  · cases finished
  · obtain ⟨token, spelled, whole⟩ := Option.map_eq_some_iff.mp finished
    rw [List.reverse_cons] at whole
    obtain ⟨_, same⟩ := List.append_inj' whole rfl
    cases same
    cases bareToken?_plain spelled
  · have whole : (mark :: known).reverse = front ++ [.closeObject] := Option.some.inj finished
    rw [List.reverse_cons] at whole
    obtain ⟨_, same⟩ := List.append_inj' whole rfl
    cases same
    exact punctuation?_close found

theorem last_bracket (read : tokens? (s ++ [c]) = some (front ++ [.closeObject])) (solid : isSpace c = false) :
    c = '\x7d' := by
  rw [tokens?_eq_read, Lexer.read, List.foldlM_append] at read
  obtain ⟨last, fed, finished⟩ := Option.bind_eq_some_iff.mp read
  obtain ⟨⟨mode, known⟩, _, once⟩ := Option.bind_eq_some_iff.mp fed
  have fed : Lexer.feed ⟨mode, known⟩ c = some last := by simpa using once
  cases mode with
  | between => exact next_last fed finished solid
  | bare word =>
    simp only [Lexer.feed] at fed
    split at fed
    · cases fed
      obtain ⟨token, spelled, whole⟩ := Option.map_eq_some_iff.mp finished
      rw [List.reverse_cons] at whole
      obtain ⟨_, same⟩ := List.append_inj' whole rfl
      cases same
      cases bareToken?_plain spelled
    · obtain ⟨token, _, after⟩ := Option.bind_eq_some_iff.mp fed
      exact next_last after finished solid
  | text pieces =>
    simp only [Lexer.feed] at fed
    split at fed
    · cases fed
      have whole : (.text pieces.reverse :: known).reverse = front ++ [.closeObject] := Option.some.inj finished
      rw [List.reverse_cons] at whole
      obtain ⟨_, same⟩ := List.append_inj' whole rfl
      cases same
    · split at fed
      · cases fed
        cases finished
      · split at fed
        · cases fed
        · cases fed
          cases finished
  | escape pieces =>
    simp only [Lexer.feed] at fed
    split at fed
    · cases fed
      cases finished
    · obtain ⟨_, _, rfl⟩ := Option.map_eq_some_iff.mp fed
      cases finished
  | code pieces left value =>
    simp only [Lexer.feed] at fed
    obtain ⟨d, _, rfl⟩ := Option.map_eq_some_iff.mp fed
    cases left <;> cases finished

theorem solid_of_blank (solid : Text.isBlank c = false) : isSpace c = false := by
  cases space : isSpace c with
  | false => rfl
  | true =>
    simp only [isSpace, Bool.or_eq_true, decide_eq_true_eq] at space
    rcases space with ((rfl | rfl) | rfl) | rfl
    all_goals exact absurd solid (by decide)

theorem object_bounds {members : Members} (read : parseChars? s = some (.object members)) (trimmed : Text.Trimmed s) :
    ∃ inner, s = '\x7b' :: (inner ++ ['\x7d']) := by
  obtain ⟨t, written, value⟩ := Option.bind_eq_some_iff.mp read
  have form : t.shape = .object := value?_shape value
  cases t with
  | object given =>
    obtain ⟨tokens, lexed, made⟩ := Option.bind_eq_some_iff.mp written
    rw [ofTokens?_exact.mp made, Tree.tokens] at lexed
    cases s with
    | nil => cases lexed
    | cons c rest =>
      obtain rfl : c = '\x7b' := first_bracket lexed (solid_of_blank (trimmed.head c rfl))
      rcases List.eq_nil_or_concat' rest with rfl | ⟨inner, d, rfl⟩
      · have alone : tokens? ['\x7b'] = some [.openObject] := rfl
        rw [alone] at lexed
        simp at lexed
      · rw [← List.cons_append, ← List.cons_append] at lexed
        have last : ('\x7b' :: (inner ++ [d])).getLast? = some d := by
          rw [← List.cons_append, List.getLast?_concat]
        obtain rfl : d = '\x7d' := last_bracket lexed (solid_of_blank (trimmed.last d last))
        exact ⟨inner, rfl⟩
  | _ => cases form

end

end ToolGateway.Json
