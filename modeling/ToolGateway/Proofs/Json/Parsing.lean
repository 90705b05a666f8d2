import ToolGateway.Proofs.Json.Edges
import ToolGateway.Proofs.Json.Grammar
import ToolGateway.Proofs.Json.RoundTrip

namespace ToolGateway.Json

inductive TokenText : Token → List Char → Prop where
  | openArray : TokenText .openArray ['[']
  | closeArray : TokenText .closeArray [']']
  | openObject : TokenText .openObject ['\x7b']
  | closeObject : TokenText .closeObject ['\x7d']
  | comma : TokenText .comma [',']
  | colon : TokenText .colon [':']
  | null : TokenText .null ['n', 'u', 'l', 'l']
  | yes : TokenText (.truth true) ['t', 'r', 'u', 'e']
  | no : TokenText (.truth false) ['f', 'a', 'l', 's', 'e']
  | number (digits : NumberText s l) : TokenText (.number l) s
  | text (inside : StringText s said) : TokenText (.text said) ('"' :: (s ++ ['"']))

inductive Lexemes : List Token → List Char → Prop where
  | done (blank : Blanks b) : Lexemes [] b
  | token (blank : Blanks b) (first : TokenText token w) (rest : Lexemes tokens s) :
      Lexemes (token :: tokens) (b ++ (w ++ s))

-- The digits of a code so far, how many more than one are missing, and what they are worth.
inductive CodeText : List Char → Nat → Nat → Prop where
  | none : CodeText [] 3 0
  | one (first : HexDigit a w) : CodeText [a] 2 w
  | two (first : HexDigit a w) (second : HexDigit b x) : CodeText [a, b] 1 (w * 16 + x)
  | three (first : HexDigit a w) (second : HexDigit b x) (third : HexDigit c y) :
      CodeText [a, b, c] 0 ((w * 16 + x) * 16 + y)

-- What a machine has read of the token that it is at.
inductive Begun : Mode → List Char → Prop where
  | between : Begun .between []
  | bare (word : List Char) : Begun (.bare word) word.reverse
  | text (inside : StringText s said.reverse) : Begun (.text said) ('"' :: s)
  | escape (inside : StringText s said.reverse) : Begun (.escape said) ('"' :: (s ++ ['\\']))
  | code (inside : StringText s said.reverse) (digits : CodeText w left value) :
      Begun (.code said left value) ('"' :: (s ++ '\\' :: 'u' :: w))

inductive Progress : Lexer → List Char → Prop where
  | mk (taken : Lexemes known.reverse front) (begun : Begun mode part) : Progress ⟨mode, known⟩ (front ++ part)

section
variable {lexer next : Lexer} {s w rest front : List Char} {tokens known more : List Token} {token : Token} {c : Char}
  {said : List Piece} {piece : Piece} {t : Tree} {members : List (Name × Tree)} {name : Name}

theorem blanks_nil : Blanks [] := fun _ absent => by cases absent

theorem blanks_append {b a : List Char} (before : Blanks b) (after : Blanks a) : Blanks (b ++ a) := by
  intro c present
  rcases List.mem_append.mp present with inside | inside
  · exact before c inside
  · exact after c inside

theorem isSpace_exact : isSpace c = true ↔ c = ' ' ∨ c = '\t' ∨ c = '\n' ∨ c = '\r' := by
  simp [isSpace, or_assoc]

theorem Lexemes.blank {b : List Char} (taken : Lexemes tokens s) (blank : Blanks b) : Lexemes tokens (s ++ b) := by
  induction taken with
  | done before => exact .done (blanks_append before blank)
  | token before first rest ih =>
    rw [List.append_assoc, List.append_assoc]
    exact .token before first ih

theorem Lexemes.snoc (taken : Lexemes tokens s) (last : TokenText token w) : Lexemes (tokens ++ [token]) (s ++ w) := by
  induction taken with
  | done before =>
    have alone := Lexemes.token before last (.done blanks_nil)
    rwa [List.append_nil] at alone
  | token before first rest ih =>
    rw [List.append_assoc, List.append_assoc]
    exact .token before first ih

theorem Lexemes.cut (taken : Lexemes (tokens ++ token :: more) s) :
    ∃ front w rest, s = front ++ (w ++ rest) ∧ Lexemes tokens front ∧ TokenText token w ∧ Lexemes more rest := by
  induction tokens generalizing s with
  | nil =>
    cases taken with
    | token before first rest => exact ⟨_, _, _, rfl, .done before, first, rest⟩
  | cons head tail ih =>
    cases taken with
    | token before first others =>
      obtain ⟨front, w, rest, rfl, inner, text, outer⟩ := ih others
      exact ⟨_, w, rest, by simp, .token before first inner, text, outer⟩

theorem StringText.snoc (inside : StringText s said) (last : PieceText w piece) :
    StringText (s ++ w) (said ++ [piece]) := by
  induction inside with
  | nil =>
    have alone := StringText.cons last .nil
    rwa [List.append_nil] at alone
  | cons first others ih =>
    rw [List.append_assoc]
    exact .cons first ih

theorem punctuation?_text (mark : punctuation? c = some token) : TokenText token [c] := by
  unfold punctuation? at mark
  split at mark
  all_goals cases mark
  all_goals constructor

theorem bareToken?_text (word : bareToken? w = some token) : TokenText token w := by
  unfold bareToken? at word
  split at word
  · cases word
    rename_i same
    rw [same]
    exact .yes
  · split at word
    · cases word
      rename_i same
      rw [same]
      exact .no
    · split at word
      · cases word
        rename_i same
        rw [same]
        exact .null
      · obtain ⟨l, read, rfl⟩ := Option.map_eq_some_iff.mp word
        exact .number (literal_exact.mp read)

theorem shortEscape?_text {e : Char} (short : shortEscape? c = some e) : PieceText ['\\', c] (.char e) := by
  unfold shortEscape? at short
  split at short
  all_goals cases short
  all_goals constructor

theorem next_progress (taken : Lexemes known.reverse front) (fed : Lexer.next known c = some next) :
    Progress next (front ++ [c]) := by
  rcases next_cases fed with ⟨space, rfl⟩ | ⟨rfl, rfl⟩ | rfl | ⟨mark, found, rfl⟩
  · have blank : Blanks [c] := fun d present => by rw [List.mem_singleton.mp present]; exact isSpace_exact.mp space
    have moved := Progress.mk (taken.blank blank) .between
    rwa [List.append_nil] at moved
  · exact .mk taken (.text .nil)
  · exact .mk taken (.bare [c])
  · have longer := taken.snoc (punctuation?_text found)
    rw [← List.reverse_cons] at longer
    have moved := Progress.mk longer .between
    rwa [List.append_nil] at moved

theorem feed_progress (progress : Progress lexer front) (fed : lexer.feed c = some next) :
    Progress next (front ++ [c]) := by
  cases progress with
  | @mk known front mode part taken begun =>
    rw [List.append_assoc]
    cases begun with
    | between =>
      rw [List.nil_append]
      exact next_progress taken fed
    | bare =>
      rename_i word
      simp only [Lexer.feed] at fed
      split at fed
      · cases fed
        rw [← List.reverse_cons]
        exact .mk taken (.bare _)
      · obtain ⟨token, spelled, after⟩ := Option.bind_eq_some_iff.mp fed
        have longer := taken.snoc (bareToken?_text spelled)
        rw [← List.reverse_cons] at longer
        rw [← List.append_assoc]
        exact next_progress longer after
    | text inside =>
      simp only [Lexer.feed] at fed
      split at fed
      · rename_i quote
        cases fed
        rw [quote]
        have longer := taken.snoc (.text inside)
        rw [← List.reverse_cons] at longer
        have moved := Progress.mk longer .between
        rwa [List.append_nil] at moved
      · split at fed
        · rename_i escape
          cases fed
          rw [escape]
          exact .mk taken (.escape inside)
        · split at fed
          · cases fed
          · cases fed
            have longer := inside.snoc (.plain ‹_› ‹_› ‹_›)
            rw [← List.reverse_cons] at longer
            exact .mk taken (.text longer)
    | escape inside =>
      simp only [Lexer.feed] at fed
      split at fed
      · rename_i code
        cases fed
        rw [code, List.cons_append, List.append_assoc]
        exact .mk taken (.code inside .none)
      · obtain ⟨e, short, rfl⟩ := Option.map_eq_some_iff.mp fed
        have longer := inside.snoc (shortEscape?_text short)
        rw [← List.reverse_cons] at longer
        rw [List.cons_append, List.append_assoc]
        exact .mk taken (.text longer)
    | code inside digits =>
      simp only [Lexer.feed] at fed
      obtain ⟨d, worth, rfl⟩ := Option.map_eq_some_iff.mp fed
      have digit := hexDigit?_exact.mp worth
      rw [List.cons_append, List.append_assoc, List.cons_append, List.cons_append]
      cases digits with
      | none =>
        have first := CodeText.one digit
        simp only [Nat.zero_mul, Nat.zero_add]
        exact .mk taken (.code inside first)
      | one first => exact .mk taken (.code inside (.two first digit))
      | two first second => exact .mk taken (.code inside (.three first second digit))
      | three first second third =>
        have longer := inside.snoc (.code first second third digit)
        rw [← List.reverse_cons] at longer
        exact .mk taken (.text longer)

theorem read_lexemes (read : lexer.read s = some tokens) (progress : Progress lexer front) :
    Lexemes tokens (front ++ s) := by
  induction s generalizing lexer front with
  | nil =>
    rw [List.append_nil]
    cases progress with
    | mk taken begun =>
      have finished : Lexer.finish _ = some tokens := read
      cases begun with
      | between =>
        cases finished
        rwa [List.append_nil]
      | bare =>
        obtain ⟨token, spelled, rfl⟩ := Option.map_eq_some_iff.mp finished
        rw [List.reverse_cons]
        exact taken.snoc (bareToken?_text spelled)
      | text inside => cases finished
      | escape inside => cases finished
      | code inside digits => cases finished
  | cons c rest ih =>
    obtain ⟨next, fed, others⟩ := Lexer.read_split read
    have whole := ih others (feed_progress progress fed)
    rwa [List.append_assoc] at whole

theorem tokens?_lexemes (read : tokens? s = some tokens) : Lexemes tokens s :=
  read_lexemes ((tokens?_eq_read s).symm.trans read) (.mk (.done blanks_nil) .between)

-- The blanks at the end belong to the value as well.
theorem padded_of_flat {b a : List Char} (before : Blanks b) (value : Spelled t w) (after : Lexemes [] a) :
    Padded t (b ++ (w ++ a)) := by
  cases after with
  | done blank => exact .mk before value blank

mutual
theorem padded_of_lexemes (t : Tree) {s : List Char} (taken : Lexemes t.tokens s) : Padded t s := by
  cases t with
  | null =>
    cases taken with
    | token before first rest =>
      cases first
      exact padded_of_flat before .null rest
  | truth b =>
    cases taken with
    | token before first rest =>
      cases first with
      | yes => exact padded_of_flat before .yes rest
      | no => exact padded_of_flat before .no rest
  | number l =>
    cases taken with
    | token before first rest =>
      cases first with
      | number digits => exact padded_of_flat before (.number digits) rest
  | text p =>
    cases taken with
    | token before first rest =>
      cases first with
      | text inside => exact padded_of_flat before (.text inside) rest
  | array items =>
    rw [Tree.tokens] at taken
    cases taken with
    | token before first inner =>
      cases first
      obtain ⟨front, w, rest, rfl, inside, last, after⟩ := inner.cut
      cases last
      have listed := items_of_lexemes items inside
      have whole := padded_of_flat before (.array listed) after
      simpa using whole
  | object members =>
    rw [Tree.tokens] at taken
    cases taken with
    | token before first inner =>
      cases first
      obtain ⟨front, w, rest, rfl, inside, last, after⟩ := inner.cut
      cases last
      have listed := members_of_lexemes members inside
      have whole := padded_of_flat before (.object listed) after
      simpa using whole
termination_by sizeOf t
theorem items_of_lexemes (items : List Tree) {s : List Char} (taken : Lexemes (itemTokens items) s) :
    ItemsText items s := by
  match items with
  | [] =>
    cases taken with
    | done blank => exact .none blank
  | [t] => exact .last (padded_of_lexemes t taken)
  | t :: u :: others =>
    rw [itemTokens_cons] at taken
    obtain ⟨front, w, rest, rfl, first, mark, behind⟩ := taken.cut
    cases mark
    exact .more (padded_of_lexemes t first) (items_of_lexemes (u :: others) behind)
termination_by sizeOf items
theorem members_of_lexemes (members : List (Name × Tree)) {s : List Char} (taken : Lexemes (memberTokens members) s) :
    MembersText members s := by
  match members with
  | [] =>
    cases taken with
    | done blank => exact .none blank
  | [(name, t)] =>
    cases taken with
    | token before quoted others =>
      cases quoted with
      | text inside =>
        cases others with
        | token between mark value =>
          cases mark
          have member := MemberText.mk before inside between (padded_of_lexemes t value)
          simpa using MembersText.last member
  | (name, t) :: u :: others =>
    rw [memberTokens_cons] at taken
    cases taken with
    | token before quoted inner =>
      cases quoted with
      | text inside =>
        cases inner with
        | token between mark value =>
          cases mark
          obtain ⟨front, w, rest, rfl, first, next, behind⟩ := value.cut
          cases next
          have member := MemberText.mk before inside between (padded_of_lexemes t first)
          simpa using MembersText.more member (members_of_lexemes (u :: others) behind)
termination_by sizeOf members
end

theorem read_blanks {b : List Char} (blank : Blanks b) (known : List Token) (rest : List Char) :
    Lexer.read ⟨.between, known⟩ (b ++ rest) = Lexer.read ⟨.between, known⟩ rest := by
  induction b with
  | nil => rfl
  | cons c others ih =>
    have fed : Lexer.feed ⟨.between, known⟩ c = some ⟨.between, known⟩ :=
      if_pos (isSpace_exact.mpr (blank c (by simp)))
    rw [List.cons_append, Lexer.read_cons fed]
    exact ih fun d present => blank d (by simp [present])

theorem feed_piece (written : PieceText w piece) (before : List Piece) (known : List Token) :
    w.foldlM Lexer.feed ⟨.text before, known⟩ = some ⟨.text (piece :: before), known⟩ := by
  cases written with
  | plain visible inside bare => simp [Lexer.feed, visible, inside, bare]
  | code first second third fourth =>
    have one := hexDigit?_exact.mpr first
    have two := hexDigit?_exact.mpr second
    have three := hexDigit?_exact.mpr third
    have four := hexDigit?_exact.mpr fourth
    simp [Lexer.feed, one, two, three, four]
  | _ => rfl

theorem feed_string (inside : StringText s said) (before : List Piece) (known : List Token) :
    s.foldlM Lexer.feed ⟨.text before, known⟩ = some ⟨.text (said.reverse ++ before), known⟩ := by
  induction inside generalizing before with
  | nil => rfl
  | cons first others ih =>
    rw [List.foldlM_append, feed_piece first, List.reverse_cons, List.append_assoc]
    exact ih _

theorem read_string (inside : StringText s said) (known : List Token) (rest : List Char) :
    Lexer.read ⟨.between, known⟩ ('"' :: (s ++ '"' :: rest)) = Lexer.read ⟨.between, .text said :: known⟩ rest := by
  have opened : Lexer.feed ⟨.between, known⟩ '"' = some ⟨.text [], known⟩ := rfl
  have closed (before : List Piece) :
      Lexer.feed ⟨.text before, known⟩ '"' = some ⟨.between, .text before.reverse :: known⟩ := rfl
  rw [Lexer.read_cons opened, Lexer.read_append (feed_string inside [] known), Lexer.read_cons (closed _)]
  simp

theorem Padded.parts (padded : Padded t s) :
    ∃ b w a, s = b ++ (w ++ a) ∧ Blanks b ∧ Spelled t w ∧ Blanks a := by
  cases padded with
  | mk before value after => exact ⟨_, _, _, rfl, before, value, after⟩

theorem MemberText.parts (member : MemberText (name, t) s) :
    ∃ b k a v, s = b ++ ('"' :: (k ++ '"' :: (a ++ ':' :: v))) ∧ Blanks b ∧ StringText k name ∧ Blanks a ∧
      Padded t v := by
  cases member with
  | mk before inside after value => exact ⟨_, _, _, _, rfl, before, inside, after, value⟩

theorem ends_blanks {a : List Char} (blank : Blanks a) (ends : Ends rest) : Ends (a ++ rest) := by
  cases a with
  | nil => exact ends
  | cons c others =>
    refine ends_cons ?_ _
    rcases blank c (by simp) with rfl | rfl | rfl | rfl <;> decide

-- What the grammar lets a tree be spelled as is read as the tokens of the tree.
mutual
theorem read_spelled (t : Tree) {s rest : List Char} (spelled : Spelled t s) (known : List Token) (ends : Ends rest) :
    Lexer.read ⟨.between, known⟩ (s ++ rest) = Lexer.read ⟨.between, t.tokens.reverse ++ known⟩ rest := by
  cases spelled with
  | null => exact read_bare (List.all_eq_true.mp rfl) rfl ends known
  | yes => exact read_bare (List.all_eq_true.mp rfl) rfl ends known
  | no => exact read_bare (List.all_eq_true.mp rfl) rfl ends known
  | number digits =>
    exact read_bare (number_bare digits) (bareToken?_numeral (literal_exact.mpr digits)) ends known
  | text inside => simpa [Tree.tokens] using read_string inside known rest
  | @array items s inside =>
    have listed := read_itemsText items inside (.openArray :: known) (ends_cons (c := ']') rfl rest)
    rw [List.cons_append, read_mark rfl (by decide) rfl rfl, List.append_assoc, List.singleton_append, listed,
      read_mark rfl (by decide) rfl rfl]
    simp [Tree.tokens]
  | @object members s inside =>
    have listed := read_membersText members inside (.openObject :: known) (ends_cons (c := '\x7d') rfl rest)
    rw [List.cons_append, read_mark rfl (by decide) rfl rfl, List.append_assoc, List.singleton_append, listed,
      read_mark rfl (by decide) rfl rfl]
    simp [Tree.tokens]
termination_by (sizeOf t, 0)
theorem read_padded (t : Tree) {s rest : List Char} (padded : Padded t s) (known : List Token) (ends : Ends rest) :
    Lexer.read ⟨.between, known⟩ (s ++ rest) = Lexer.read ⟨.between, t.tokens.reverse ++ known⟩ rest := by
  obtain ⟨b, w, a, rfl, before, value, after⟩ := padded.parts
  rw [List.append_assoc, List.append_assoc, read_blanks before, read_spelled t value known (ends_blanks after ends),
    read_blanks after]
termination_by (sizeOf t, 1)
theorem read_itemsText (items : List Tree) {s rest : List Char} (listed : ItemsText items s) (known : List Token)
    (ends : Ends rest) :
    Lexer.read ⟨.between, known⟩ (s ++ rest) = Lexer.read ⟨.between, (itemTokens items).reverse ++ known⟩ rest := by
  cases listed with
  | none blank => exact read_blanks blank known rest
  | @last t _ item => exact read_padded t item known ends
  | @more t _ u others r item behind =>
    have first := read_padded t item known (ends_cons (c := ',') rfl (r ++ rest))
    have second := read_itemsText (u :: others) behind (.comma :: (t.tokens.reverse ++ known)) ends
    rw [List.append_assoc, List.cons_append, first, read_comma, second, itemTokens_cons]
    simp
termination_by (sizeOf items, 0)
theorem read_memberText (m : Name × Tree) {s rest : List Char} (member : MemberText m s) (known : List Token)
    (ends : Ends rest) :
    Lexer.read ⟨.between, known⟩ (s ++ rest) =
      Lexer.read ⟨.between, m.2.tokens.reverse ++ .colon :: .text m.1 :: known⟩ rest := by
  match m with
  | (name, t) =>
    obtain ⟨b, k, a, v, rfl, before, inside, after, value⟩ := member.parts
    have quoted := read_string inside known
    have behind := read_padded t value (.colon :: .text name :: known) ends
    simp only [List.append_assoc, List.cons_append]
    rw [read_blanks before, quoted, read_blanks after, read_colon, behind]
termination_by (sizeOf m, 0)
theorem read_membersText (members : List (Name × Tree)) {s rest : List Char} (listed : MembersText members s)
    (known : List Token) (ends : Ends rest) :
    Lexer.read ⟨.between, known⟩ (s ++ rest) = Lexer.read ⟨.between, (memberTokens members).reverse ++ known⟩ rest := by
  cases listed with
  | none blank => exact read_blanks blank known rest
  | @last m _ member =>
    rw [read_memberText m member known ends]
    simp [memberTokens]
  | @more m _ n others r member behind =>
    have first := read_memberText m member known (ends_cons (c := ',') rfl (r ++ rest))
    have second := read_membersText (n :: others) behind
      (.comma :: (m.2.tokens.reverse ++ .colon :: .text m.1 :: known)) ends
    rw [List.append_assoc, List.cons_append, first, read_comma, second, memberTokens_cons]
    simp
termination_by (sizeOf members, 0)
end

-- A tree is read from the texts that spell it, and from no others.
theorem ofChars?_exact : Tree.ofChars? s = some t ↔ Padded t s := by
  constructor
  · intro read
    obtain ⟨tokens, lexed, made⟩ := Option.bind_eq_some_iff.mp read
    have taken := tokens?_lexemes lexed
    rw [ofTokens?_exact.mp made] at taken
    exact padded_of_lexemes t taken
  · intro padded
    have last : Ends [] := fun _ none => by cases none
    have lexed := read_padded t padded [] last
    rw [List.append_nil, List.append_nil] at lexed
    have finished : Lexer.read ⟨.between, t.tokens.reverse⟩ [] = some t.tokens := by simp [Lexer.read, Lexer.finish]
    rw [Tree.ofChars?, tokens?_eq_read, Lexer.start, lexed, finished]
    exact ofTokens?_tokens t

theorem isHigh_exact {code : Nat} : isHigh code = true ↔ 0xD800 ≤ code ∧ code < 0xDC00 := by simp [isHigh]

theorem isLow_exact {code : Nat} : isLow code = true ↔ 0xDC00 ≤ code ∧ code < 0xE000 := by simp [isLow]

theorem unescaped_sound (read : textChars? said = some s) : Unescaped said s := by
  fun_induction textChars? said generalizing s with
  | case1 => cases read; exact .nil
  | case2 c rest ih =>
    obtain ⟨tail, found, rfl⟩ := Option.map_eq_some_iff.mp read
    exact .char (ih found)
  | case3 one two rest high low ih =>
    obtain ⟨tail, found, rfl⟩ := Option.map_eq_some_iff.mp read
    exact .pair (isHigh_exact.mp high) (isLow_exact.mp low) (ih found)
  | case4 => cases read
  | case5 => cases read
  | case6 one two rest high low ih =>
    obtain ⟨tail, found, rfl⟩ := Option.map_eq_some_iff.mp read
    rw [isHigh_exact] at high
    rw [isLow_exact] at low
    exact .unit (by omega) (ih found)
  | case7 => cases read
  | case8 code rest single half ih =>
    obtain ⟨tail, found, rfl⟩ := Option.map_eq_some_iff.mp read
    rw [Bool.or_eq_true, isHigh_exact, isLow_exact] at half
    exact .unit (by omega) (ih found)

theorem unescaped_complete (unescaped : Unescaped said s) : textChars? said = some s := by
  induction unescaped with
  | nil => rfl
  | char rest ih => rw [textChars?, ih]; rfl
  | unit alone rest ih => rw [textChars?_unit alone, ih]; rfl
  | pair high low rest ih => rw [textChars?, if_pos (isHigh_exact.mpr high), if_pos (isLow_exact.mpr low), ih]; rfl

theorem textOf?_exact {text : String} : textOf? said = some text ↔ Unescaped said text.toList := by
  constructor
  · intro read
    obtain ⟨chars, found, rfl⟩ := Option.map_eq_some_iff.mp read
    rw [String.toList_ofList]
    exact unescaped_sound found
  · intro unescaped
    rw [textOf?, unescaped_complete unescaped, Option.map_some, String.ofList_toList]

end

end ToolGateway.Json
