import ToolGateway.Json.Tree
import ToolGateway.Proofs.Json.Real

namespace ToolGateway.Json

def shortEscaped : List Char := ['\x08', '\x0c', '\n', '\r', '\t']

-- Control characters without an escape of their own come back as code units.
def pieceOf (c : Char) : Piece := if c < ' ' ∧ c ∉ shortEscaped then .unit c.toNat else .char c

def pieces (s : String) : List Piece := s.toList.map pieceOf

def realLiteral (x : Decimal.Finite) : Literal :=
  (Literal.ofChars? (Decimal.finiteText Decimal.double realLayout x)).getD ⟨false, [], [], none⟩

mutual
def tree : Json → Tree
  | .null => .null
  | .bool b => .truth b
  | .whole n => .number (wholeLiteral n)
  | .real x => .number (realLiteral x)
  | .text s => .text (pieces s)
  | .array items => .array (itemTrees items)
  | .object members => .object (memberTrees members)
def itemTrees : List Json → List Tree
  | [] => []
  | v :: rest => v.tree :: itemTrees rest
def memberTrees : List (String × Json) → List (Name × Tree)
  | [] => []
  | (key, v) :: rest => (pieces key, v.tree) :: memberTrees rest
end

theorem hexDigit?_hexDigit : ∀ n < 16, Text.hexDigit? (hexDigit n) = some n := by decide

theorem feed_escapeChar (c : Char) (before : List Piece) (tokens : List Token) :
    (escapeChar c).foldlM Lexer.feed ⟨.text before, tokens⟩ = some ⟨.text (pieceOf c :: before), tokens⟩ := by
  unfold escapeChar
  by_cases short : c ∈ ['"', '\\', '\x08', '\x0c', '\n', '\r', '\t']
  · simp only [List.mem_cons, List.not_mem_nil, or_false] at short
    rcases short with rfl | rfl | rfl | rfl | rfl | rfl | rfl <;> rfl
  · simp only [List.mem_cons, List.not_mem_nil, or_false, not_or] at short
    obtain ⟨quote, backslash, backspace, formFeed, lineFeed, return_, tab⟩ := short
    rw [if_neg quote, if_neg backslash, if_neg backspace, if_neg formFeed, if_neg lineFeed, if_neg return_, if_neg tab]
    by_cases control : c < ' '
    · have size : c.toNat < 32 := control
      have high := hexDigit?_hexDigit (c.toNat / 16) (by omega)
      have low := hexDigit?_hexDigit (c.toNat % 16) (by omega)
      have code : c.toNat / 16 * 16 + c.toNat % 16 = c.toNat := by omega
      have zero : Text.hexDigit? '0' = some 0 := by decide
      have piece : pieceOf c = .unit c.toNat := by
        simp [pieceOf, shortEscaped, control, backspace, formFeed, lineFeed, return_, tab]
      simp [if_pos control, Lexer.feed, zero, high, low, code, piece]
    · have piece : pieceOf c = .char c := by simp [pieceOf, control]
      simp [Lexer.feed, quote, backslash, control, piece]

def Lexer.read (lexer : Lexer) (s : List Char) : Option (List Token) := (s.foldlM Lexer.feed lexer).bind Lexer.finish

section
variable {lexer next : Lexer} {s rest : List Char} {tokens : List Token}

theorem tokens?_eq_read (s : List Char) : tokens? s = Lexer.start.read s := rfl

theorem Lexer.read_append (fed : s.foldlM Lexer.feed lexer = some next) : lexer.read (s ++ rest) = next.read rest := by
  rw [Lexer.read, List.foldlM_append, fed]
  rfl

theorem Lexer.read_cons {c : Char} (fed : lexer.feed c = some next) : lexer.read (c :: rest) = next.read rest := by
  rw [Lexer.read, List.foldlM_cons, fed]
  rfl

theorem feed_escaped (chars : List Char) (before : List Piece) (tokens : List Token) :
    (chars.flatMap escapeChar).foldlM Lexer.feed ⟨.text before, tokens⟩ =
      some ⟨.text ((chars.map pieceOf).reverse ++ before), tokens⟩ := by
  induction chars generalizing before with
  | nil => rfl
  | cons c rest ih =>
    rw [List.flatMap_cons, List.foldlM_append, feed_escapeChar]
    simpa using ih (pieceOf c :: before)

theorem read_quote (s : String) (tokens : List Token) (rest : List Char) :
    Lexer.read ⟨.between, tokens⟩ (quote s ++ rest) = Lexer.read ⟨.between, .text (pieces s) :: tokens⟩ rest := by
  have opened : Lexer.feed ⟨.between, tokens⟩ '"' = some ⟨.text [], tokens⟩ := rfl
  have closed (before : List Piece) : Lexer.feed ⟨.text before, tokens⟩ '"' =
      some ⟨.between, .text before.reverse :: tokens⟩ := rfl
  have inside := feed_escaped s.toList [] tokens
  rw [quote, quoteChars, List.cons_append, Lexer.read_cons opened, List.append_assoc, Lexer.read_append inside,
    List.singleton_append, Lexer.read_cons (closed _)]
  simp [pieces]

-- What ends a bare word: the end of the text, or a character that no bare word holds.
def Ends (rest : List Char) : Prop := ∀ c, rest.head? = some c → isBare c = false

theorem feed_bare {word : List Char} (bare : ∀ c ∈ word, isBare c = true) (before : List Char) (tokens : List Token) :
    word.foldlM Lexer.feed ⟨.bare before, tokens⟩ = some ⟨.bare (word.reverse ++ before), tokens⟩ := by
  induction word generalizing before with
  | nil => rfl
  | cons c rest ih =>
    have fed : Lexer.feed ⟨.bare before, tokens⟩ c = some ⟨.bare (c :: before), tokens⟩ := by
      simp [Lexer.feed, bare c]
    rw [List.foldlM_cons, fed]
    simpa using ih (fun d present => bare d (List.mem_cons_of_mem c present)) (c :: before)

theorem next_bare {c : Char} (bare : isBare c = true) : Lexer.next tokens c = some ⟨.bare [c], tokens⟩ := by
  have space : isSpace c = false := by
    cases found : isSpace c with
    | false => rfl
    | true =>
      simp only [isSpace, Bool.or_eq_true, decide_eq_true_eq] at found
      rcases found with ((rfl | rfl) | rfl) | rfl <;> exact absurd bare (by decide)
  have quote : c ≠ '"' := by
    rintro rfl
    exact absurd bare (by decide)
  simp [Lexer.next, space, quote, bare]

theorem read_bare {word : List Char} {token : Token} (bare : ∀ c ∈ word, isBare c = true)
    (spelled : bareToken? word = some token) (ends : Ends rest) (tokens : List Token) :
    Lexer.read ⟨.between, tokens⟩ (word ++ rest) = Lexer.read ⟨.between, token :: tokens⟩ rest := by
  cases word with
  | nil =>
    have none : bareToken? [] = none := by decide
    cases none.symm.trans spelled
  | cons first more =>
    have opened : Lexer.feed ⟨.between, tokens⟩ first = some ⟨.bare [first], tokens⟩ := next_bare (bare first (by simp))
    have inside := feed_bare (fun c present => bare c (List.mem_cons_of_mem first present)) [first] tokens
    have whole : (more.reverse ++ [first]).reverse = first :: more := by simp
    rw [List.cons_append, Lexer.read_cons opened, Lexer.read_append inside]
    cases rest with
    | nil => simp [Lexer.read, Lexer.finish, whole, spelled]
    | cons c others =>
      have stop := ends c rfl
      simp [Lexer.read, List.foldlM_cons, Lexer.feed, stop, whole, spelled]

theorem ends_cons {c : Char} (stop : isBare c = false) (rest : List Char) : Ends (c :: rest) := by
  intro d head
  cases head
  exact stop

theorem read_mark {c : Char} {token : Token} (space : isSpace c = false) (quote : c ≠ '"') (stop : isBare c = false)
    (mark : punctuation? c = some token) :
    Lexer.read ⟨.between, tokens⟩ (c :: rest) = Lexer.read ⟨.between, token :: tokens⟩ rest := by
  refine Lexer.read_cons ?_
  simp [Lexer.feed, Lexer.next, space, quote, stop, mark]

theorem read_comma : Lexer.read ⟨.between, tokens⟩ (',' :: rest) = Lexer.read ⟨.between, .comma :: tokens⟩ rest :=
  read_mark rfl (by decide) rfl rfl

theorem read_colon : Lexer.read ⟨.between, tokens⟩ (':' :: rest) = Lexer.read ⟨.between, .colon :: tokens⟩ rest :=
  read_mark rfl (by decide) rfl rfl

end

-- A text is read value by value, item by item and member by member, in step with the tree.
mutual
theorem read_render (v : Json) (tokens : List Token) {rest : List Char} (ends : Ends rest) :
    Lexer.read ⟨.between, tokens⟩ (v.render ++ rest) = Lexer.read ⟨.between, v.tree.tokens.reverse ++ tokens⟩ rest := by
  cases v with
  | null => exact read_bare (List.all_eq_true.mp rfl) rfl ends tokens
  | bool b => cases b <;> exact read_bare (List.all_eq_true.mp rfl) rfl ends tokens
  | whole n =>
    exact read_bare (wholeChars_numeral n).bare (bareToken?_numeral (ofChars?_wholeChars n)) ends tokens
  | real x =>
    obtain ⟨⟨l, read⟩, bare⟩ := real_numeral x
    have same : realLiteral x = l := by rw [realLiteral, read]; rfl
    have spelled := bareToken?_numeral read
    rw [← same] at spelled
    exact read_bare bare spelled ends tokens
  | text s => exact read_quote s tokens rest
  | array items =>
    have inside := read_renderItems items (.openArray :: tokens) (ends_cons (c := ']') rfl rest)
    rw [render, List.cons_append, read_mark rfl (by decide) rfl rfl, List.append_assoc, List.singleton_append, inside,
      read_mark rfl (by decide) rfl rfl]
    simp [tree, Tree.tokens]
  | object members =>
    have inside := read_renderMembers members (.openObject :: tokens) (ends_cons (c := '\x7d') rfl rest)
    rw [render, List.cons_append, read_mark rfl (by decide) rfl rfl, List.append_assoc, List.singleton_append, inside,
      read_mark rfl (by decide) rfl rfl]
    simp [tree, Tree.tokens]
theorem read_renderItems (items : List Json) (tokens : List Token) {rest : List Char} (ends : Ends rest) :
    Lexer.read ⟨.between, tokens⟩ (renderItems items ++ rest) =
      Lexer.read ⟨.between, (itemTokens (itemTrees items)).reverse ++ tokens⟩ rest := by
  match items with
  | [] => rfl
  | [v] => exact read_render v tokens ends
  | v :: w :: more =>
    have first := read_render v tokens (ends_cons (c := ',') rfl (renderItems (w :: more) ++ rest))
    have others := read_renderItems (w :: more) (.comma :: (v.tree.tokens.reverse ++ tokens)) ends
    rw [renderItems, List.append_assoc, List.cons_append, first, read_comma, others]
    · simp [itemTrees, itemTokens]
    · simp
theorem read_renderMembers (members : List (String × Json)) (tokens : List Token) {rest : List Char} (ends : Ends rest) :
    Lexer.read ⟨.between, tokens⟩ (renderMembers members ++ rest) =
      Lexer.read ⟨.between, (memberTokens (memberTrees members)).reverse ++ tokens⟩ rest := by
  match members with
  | [] => rfl
  | [(key, v)] =>
    have value := read_render v (.colon :: .text (pieces key) :: tokens) ends
    rw [renderMembers, List.append_assoc, read_quote, List.cons_append, read_colon, value]
    simp [memberTrees, memberTokens]
  | (key, v) :: w :: more =>
    have value := read_render v (.colon :: .text (pieces key) :: tokens)
      (ends_cons (c := ',') rfl (renderMembers (w :: more) ++ rest))
    have others := read_renderMembers (w :: more) (.comma :: (v.tree.tokens.reverse ++
      .colon :: .text (pieces key) :: tokens)) ends
    rw [renderMembers, List.append_assoc, read_quote, List.cons_append, read_colon, List.append_assoc, List.cons_append,
      value, read_comma, others]
    · simp [memberTrees, memberTokens]
    · simp
end

theorem tokens?_render (v : Json) : tokens? v.render = some v.tree.tokens := by
  have ends : Ends [] := fun _ none => by cases none
  have whole := read_render v [] ends
  rw [tokens?_eq_read, Lexer.start]
  rw [List.append_nil] at whole
  rw [whole]
  simp [Lexer.read, Lexer.finish]

end ToolGateway.Json
