import ToolGateway.Json.Tree
import ToolGateway.Proofs.Json.Number

namespace ToolGateway.Json

def Blanks (s : List Char) : Prop := ∀ c ∈ s, c = ' ' ∨ c = '\t' ∨ c = '\n' ∨ c = '\r'

structure Digits (s : List Char) : Prop where
  present : s ≠ []
  all : ∀ c ∈ s, c.isDigit = true

inductive FractionText : List Char → List Nat → Prop where
  | absent : FractionText [] []
  | present (digits : Digits s) : FractionText ('.' :: s) (s.map Text.digitValue)

inductive SignedDigits : List Char → Int → Prop where
  | bare (digits : Digits s) : SignedDigits s (digitsValue (s.map Text.digitValue))
  | plus (digits : Digits s) : SignedDigits ('+' :: s) (digitsValue (s.map Text.digitValue))
  | minus (digits : Digits s) : SignedDigits ('-' :: s) (-(digitsValue (s.map Text.digitValue) : Int))

inductive ExponentText : List Char → Option Int → Prop where
  | absent : ExponentText [] none
  | present (mark : c = 'e' ∨ c = 'E') (power : SignedDigits s e) : ExponentText (c :: s) (some e)

inductive NumberText : List Char → Literal → Prop where
  | mk (negative : Bool) (leads : Leads front) (fraction : FractionText point places)
      (exponent : ExponentText power e) :
      NumberText (signChars negative ++ (front ++ (point ++ power)))
        ⟨negative, front.map Text.digitValue, places, e⟩

inductive HexDigit : Char → Nat → Prop where
  | digit (low : '0' ≤ c) (high : c ≤ '9') : HexDigit c (c.toNat - '0'.toNat)
  | lower (low : 'a' ≤ c) (high : c ≤ 'f') : HexDigit c (c.toNat - 'a'.toNat + 10)
  | upper (low : 'A' ≤ c) (high : c ≤ 'F') : HexDigit c (c.toNat - 'A'.toNat + 10)

inductive PieceText : List Char → Piece → Prop where
  | plain (visible : ¬ c < ' ') (inside : c ≠ '"') (bare : c ≠ '\\') : PieceText [c] (.char c)
  | quote : PieceText ['\\', '"'] (.char '"')
  | backslash : PieceText ['\\', '\\'] (.char '\\')
  | slash : PieceText ['\\', '/'] (.char '/')
  | backspace : PieceText ['\\', 'b'] (.char '\x08')
  | formFeed : PieceText ['\\', 'f'] (.char '\x0c')
  | lineFeed : PieceText ['\\', 'n'] (.char '\n')
  | carriageReturn : PieceText ['\\', 'r'] (.char '\r')
  | tab : PieceText ['\\', 't'] (.char '\t')
  | code (first : HexDigit a w) (second : HexDigit b x) (third : HexDigit c y) (fourth : HexDigit d z) :
      PieceText ['\\', 'u', a, b, c, d] (.unit (((w * 16 + x) * 16 + y) * 16 + z))

inductive StringText : List Char → List Piece → Prop where
  | nil : StringText [] []
  | cons (first : PieceText w piece) (rest : StringText s said) : StringText (w ++ s) (piece :: said)

-- A text of a value without the blanks around it, and one with them.
mutual
inductive Spelled : Tree → List Char → Prop where
  | null : Spelled .null ['n', 'u', 'l', 'l']
  | yes : Spelled (.truth true) ['t', 'r', 'u', 'e']
  | no : Spelled (.truth false) ['f', 'a', 'l', 's', 'e']
  | number (digits : NumberText s l) : Spelled (.number l) s
  | text (inside : StringText s said) : Spelled (.text said) ('"' :: (s ++ ['"']))
  | array (inside : ItemsText items s) : Spelled (.array items) ('[' :: (s ++ [']']))
  | object (inside : MembersText members s) : Spelled (.object members) ('\x7b' :: (s ++ ['\x7d']))
inductive Padded : Tree → List Char → Prop where
  | mk (before : Blanks b) (value : Spelled t s) (after : Blanks a) : Padded t (b ++ (s ++ a))
inductive ItemsText : List Tree → List Char → Prop where
  | none (blank : Blanks b) : ItemsText [] b
  | last (item : Padded t s) : ItemsText [t] s
  | more (item : Padded t s) (others : ItemsText (u :: rest) r) : ItemsText (t :: u :: rest) (s ++ ',' :: r)
inductive MemberText : Name × Tree → List Char → Prop where
  | mk (before : Blanks b) (name : StringText k said) (after : Blanks a) (value : Padded t s) :
      MemberText (said, t) (b ++ ('"' :: (k ++ '"' :: (a ++ ':' :: s))))
inductive MembersText : List (Name × Tree) → List Char → Prop where
  | none (blank : Blanks b) : MembersText [] b
  | last (member : MemberText m s) : MembersText [m] s
  | more (member : MemberText m s) (others : MembersText (n :: rest) r) :
      MembersText (m :: n :: rest) (s ++ ',' :: r)
end

-- What the pieces of a string say: a unit stands for its character, two surrogate halves for one together.
inductive Unescaped : List Piece → List Char → Prop where
  | nil : Unescaped [] []
  | char (rest : Unescaped said s) : Unescaped (.char c :: said) (c :: s)
  | unit (alone : ¬ (0xD800 ≤ code ∧ code < 0xE000)) (rest : Unescaped said s) :
      Unescaped (.unit code :: said) (Char.ofNat code :: s)
  | pair (high : 0xD800 ≤ one ∧ one < 0xDC00) (low : 0xDC00 ≤ two ∧ two < 0xE000) (rest : Unescaped said s) :
      Unescaped (.unit one :: .unit two :: said)
        (Char.ofNat (0x10000 + (one - 0xD800) * 0x400 + (two - 0xDC00)) :: s)

section
variable {s r : List Char} {l m : Literal} {c : Char} {d : Nat} {e : Int}

theorem hexDigit?_code (c : Char) : Text.hexDigit? c =
    if 48 ≤ c.toNat ∧ c.toNat ≤ 57 then some (c.toNat - 48)
    else if 97 ≤ c.toNat ∧ c.toNat ≤ 102 then some (c.toNat - 97 + 10)
    else if 65 ≤ c.toNat ∧ c.toNat ≤ 70 then some (c.toNat - 65 + 10) else none := by
  have digit : c.isDigit = true ↔ 48 ≤ c.toNat ∧ c.toNat ≤ 57 := by
    simp [Char.isDigit, UInt32.le_iff_toNat_le]
  have order (x y : Char) : x ≤ y ↔ x.toNat ≤ y.toNat := Iff.rfl
  have codes : '0'.toNat = 48 ∧ 'a'.toNat = 97 ∧ 'z'.toNat = 122 ∧ 'A'.toNat = 65 ∧ 'Z'.toNat = 90 := by decide
  obtain ⟨zero, a, z, A, Z⟩ := codes
  simp only [Text.hexDigit?, Text.digitIn?, Text.digitValue, digit, order, zero, a, z, A, Z]
  split_ifs <;> grind

theorem hexDigit?_exact : Text.hexDigit? c = some d ↔ HexDigit c d := by
  have order (x y : Char) : x ≤ y ↔ x.toNat ≤ y.toNat := Iff.rfl
  rw [hexDigit?_code]
  constructor
  · intro worth
    split_ifs at worth with digit lower upper
    · cases worth
      exact .digit digit.1 digit.2
    · cases worth
      exact .lower lower.1 lower.2
    · cases worth
      exact .upper upper.1 upper.2
  · intro hex
    cases hex with
    | digit low high => exact if_pos ⟨low, high⟩
    | lower low high =>
      have range : 97 ≤ c.toNat ∧ c.toNat ≤ 102 := ⟨low, high⟩
      rw [if_neg (by omega), if_pos range]
      rfl
    | upper low high =>
      have range : 65 ≤ c.toNat ∧ c.toNat ≤ 70 := ⟨low, high⟩
      rw [if_neg (by omega), if_neg (by omega), if_pos range]
      rfl

theorem digitRun_split (s : List Char) : ∃ front rest, s = front ++ rest ∧ (∀ c ∈ front, c.isDigit = true) ∧
    (∀ c, rest.head? = some c → c.isDigit = false) ∧ digitRun s = (front.map Text.digitValue, rest) := by
  refine ⟨s.takeWhile Char.isDigit, s.dropWhile Char.isDigit, List.takeWhile_append_dropWhile.symm, ?_, ?_, rfl⟩
  · exact fun c present => List.mem_takeWhile_imp present
  · intro c first
    have stops := List.head?_dropWhile_not Char.isDigit s
    rw [first] at stops
    simpa using stops

theorem digitRun_digits (digits : Digits s) :
    ∃ first rest, s.map Text.digitValue = first :: rest ∧ digitRun s = (first :: rest, []) := by
  obtain ⟨c, others, rfl⟩ := List.exists_cons_of_ne_nil digits.present
  refine ⟨_, _, rfl, ?_⟩
  have run := digitRun_append digits.all nil_stops
  rwa [List.append_nil] at run

theorem digits_of_run {first : Nat} {values : List Nat} (run : digitRun s = (first :: values, r)) :
    ∃ front, s = front ++ r ∧ Digits front ∧ front.map Text.digitValue = first :: values ∧
      ∀ c, r.head? = some c → c.isDigit = false := by
  obtain ⟨front, rest, whole, all, stops, found⟩ := digitRun_split s
  rw [found] at run
  obtain ⟨values, same⟩ := Prod.mk.inj run
  cases same
  refine ⟨front, whole, ⟨?_, all⟩, values, stops⟩
  rintro rfl
  cases values

theorem unsigned_exponent {negative : Bool} : (match digitRun s with
      | ([], _) => none
      | (digits, []) => some (if negative then -(digitsValue digits : Int) else digitsValue digits)
      | _ => none) = some e ↔
    Digits s ∧ e = if negative then -(digitsValue (s.map Text.digitValue) : Int)
      else digitsValue (s.map Text.digitValue) := by
  constructor
  · intro read
    split at read
    · cases read
    · rename_i digits _ run
      cases digits with
      | nil => simp_all
      | cons first values =>
        obtain ⟨front, rfl, digits, found, _⟩ := digits_of_run run
        rw [List.append_nil]
        cases read
        exact ⟨digits, by rw [found]⟩
    · cases read
  · rintro ⟨digits, rfl⟩
    obtain ⟨first, rest, values, run⟩ := digitRun_digits digits
    rw [run, values]

theorem exponentOf?_exact : exponentOf? s = some e ↔ SignedDigits s e := by
  constructor
  · intro read
    unfold exponentOf? at read
    split at read
    rename_i negative unsigned shape
    split at shape
    all_goals cases shape
    · obtain ⟨digits, rfl⟩ := unsigned_exponent.mp read
      exact .minus digits
    · obtain ⟨digits, rfl⟩ := unsigned_exponent.mp read
      exact .plus digits
    · obtain ⟨digits, rfl⟩ := unsigned_exponent.mp read
      exact .bare digits
  · intro signed
    cases signed with
    | bare digits =>
      unfold exponentOf?
      split
      rename_i negative unsigned shape
      split at shape
      all_goals cases shape
      · exact absurd (digits.all '-' (by simp)) (by decide)
      · exact absurd (digits.all '+' (by simp)) (by decide)
      · exact unsigned_exponent.mpr ⟨digits, rfl⟩
    | plus digits => exact unsigned_exponent.mpr ⟨digits, rfl⟩
    | minus digits => exact unsigned_exponent.mpr ⟨digits, rfl⟩

theorem withExponent?_exact (bare : l.exponent = none) :
    l.withExponent? s = some m ↔ ∃ power, ExponentText s power ∧ m = {l with exponent := power} := by
  cases s with
  | nil =>
    constructor
    · intro read
      cases read
      exact ⟨none, .absent, by rw [← bare]⟩
    · rintro ⟨power, written, rfl⟩
      cases written
      rw [← bare]
      rfl
  | cons c rest =>
    rw [Literal.withExponent?]
    constructor
    · intro read
      split at read
      · obtain ⟨power, signed, rfl⟩ := Option.map_eq_some_iff.mp read
        exact ⟨some power, .present ‹_› (exponentOf?_exact.mp signed), rfl⟩
      · cases read
    · rintro ⟨power, written, rfl⟩
      cases written with
      | present mark signed => rw [if_pos mark, exponentOf?_exact.mpr signed]; rfl

theorem exponent_stops {power : Option Int} (written : ExponentText s power) :
    ∀ c, s.head? = some c → c.isDigit = false ∧ c ≠ '.' := by
  intro c first
  cases written with
  | absent => cases first
  | present mark signed =>
    cases first
    rcases mark with rfl | rfl <;> decide

theorem leads_of_run {found : List Nat} (run : digitRun s = (found, r)) (present : found ≠ [])
    (single : ∀ head tail, found ≠ 0 :: head :: tail) :
    ∃ front, s = front ++ r ∧ Leads front ∧ front.map Text.digitValue = found := by
  obtain ⟨first, values, rfl⟩ := List.exists_cons_of_ne_nil present
  obtain ⟨front, whole, digits, same, _⟩ := digits_of_run run
  refine ⟨front, whole, ⟨digits.all, ?_⟩, same⟩
  obtain ⟨c, others, rfl⟩ := List.exists_cons_of_ne_nil digits.present
  obtain ⟨worth, rest⟩ := List.cons.inj same
  refine ⟨c, others, rfl, ?_⟩
  rintro rfl
  cases values with
  | nil => exact List.map_eq_nil_iff.mp rest
  | cons head tail => exact absurd (by rw [← worth]; rfl) (single head tail)

theorem literal_sound (read : Literal.ofChars? s = some l) : NumberText s l := by
  unfold Literal.ofChars? at read
  split at read
  rename_i negative unsigned shape
  have signed : s = signChars negative ++ unsigned := by
    split at shape
    all_goals cases shape
    all_goals rfl
  rw [signed]
  split at read
  · cases read
  · cases read
  · rename_i found rest present single run
    obtain ⟨front, rfl, leads, rfl⟩ := leads_of_run run present single
    split at read
    · cases read
    · rename_i places tail some_place after
      obtain ⟨first, values, rfl⟩ := List.exists_cons_of_ne_nil some_place
      obtain ⟨point, rfl, digits, same, _⟩ := digits_of_run after
      obtain ⟨power, written, rfl⟩ := (withExponent?_exact rfl).mp read
      have number := NumberText.mk negative leads (.present digits) written
      rwa [same] at number
  · rename_i found rest present single _ run
    obtain ⟨front, rfl, leads, rfl⟩ := leads_of_run run present single
    obtain ⟨power, written, rfl⟩ := (withExponent?_exact rfl).mp read
    exact .mk negative leads .absent written

theorem literal_complete (number : NumberText s l) : Literal.ofChars? s = some l := by
  cases number with
  | mk negative leads fraction exponent =>
    have stops := exponent_stops exponent
    cases fraction with
    | absent =>
      rw [List.nil_append, ofChars?_whole negative leads stops]
      exact (withExponent?_exact rfl).mpr ⟨_, exponent, rfl⟩
    | present digits =>
      rw [List.cons_append, ofChars?_point negative leads digits.present digits.all fun c first => (stops c first).1]
      exact (withExponent?_exact rfl).mpr ⟨_, exponent, rfl⟩

theorem literal_exact : Literal.ofChars? s = some l ↔ NumberText s l := ⟨literal_sound, literal_complete⟩

theorem signedDigits_bare (signed : SignedDigits s e) : ∀ c ∈ s, isBare c = true := by
  cases signed with
  | bare digits => exact fun c present => isBare_digit (digits.all c present)
  | plus digits | minus digits =>
    intro c present
    rcases List.mem_cons.mp present with rfl | inside
    · decide
    · exact isBare_digit (digits.all c inside)

-- No character of a number ends a bare word.
theorem number_bare (number : NumberText s l) : ∀ c ∈ s, isBare c = true := by
  cases number with
  | mk negative leads fraction exponent =>
    intro c present
    rcases List.mem_append.mp present with sign | unsigned
    · exact signChars_bare negative c sign
    rcases List.mem_append.mp unsigned with front | behind
    · exact isBare_digit (leads.all c front)
    rcases List.mem_append.mp behind with point | power
    · cases fraction with
      | absent => cases point
      | present digits =>
        rcases List.mem_cons.mp point with rfl | place
        · decide
        · exact isBare_digit (digits.all c place)
    · cases exponent with
      | absent => cases power
      | present mark signed =>
        rcases List.mem_cons.mp power with rfl | inside
        · rcases mark with rfl | rfl <;> decide
        · exact signedDigits_bare signed c inside

end

end ToolGateway.Json
