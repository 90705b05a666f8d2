import ToolGateway.Text.Digit

namespace ToolGateway.Json

-- One step of a string: a character, or the code unit of a four-digit escape.
inductive Piece where
  | char (c : Char)
  | unit (code : Nat)
  deriving DecidableEq, Repr

-- A number as written: no fraction digits means no point, no exponent means no exponent sign.
structure Literal where
  negative : Bool
  whole : List Nat
  fraction : List Nat
  exponent : Option Int
  deriving DecidableEq, Repr

inductive Token where
  | openArray
  | closeArray
  | openObject
  | closeObject
  | comma
  | colon
  | null
  | truth (b : Bool)
  | number (literal : Literal)
  | text (pieces : List Piece)
  deriving DecidableEq, Repr

def isSpace (c : Char) : Bool := c = ' ' || c = '\t' || c = '\n' || c = '\r'

def digitRun (s : List Char) : List Nat × List Char :=
  ((s.takeWhile Char.isDigit).map Text.digitValue, s.dropWhile Char.isDigit)

def digitsValue (digits : List Nat) : Nat := digits.foldl (fun n d => n * 10 + d) 0

def exponentOf? (s : List Char) : Option Int :=
  let (negative, unsigned) := match s with
    | '-' :: r => (true, r)
    | '+' :: r => (false, r)
    | r => (false, r)
  match digitRun unsigned with
  | ([], _) => none
  | (digits, []) => some (if negative then -(digitsValue digits : Int) else digitsValue digits)
  | _ => none

def Literal.withExponent? (l : Literal) : List Char → Option Literal
  | [] => some l
  | c :: r => if c = 'e' ∨ c = 'E' then (exponentOf? r).map fun e => {l with exponent := some e} else none

-- No superfluous zero in front, and a point has digits on both sides.
def Literal.ofChars? (s : List Char) : Option Literal :=
  let (negative, unsigned) := match s with
    | '-' :: r => (true, r)
    | r => (false, r)
  match digitRun unsigned with
  | ([], _) => none
  | (0 :: _ :: _, _) => none
  | (whole, '.' :: r) =>
    match digitRun r with
    | ([], _) => none
    | (fraction, r) => Literal.withExponent? ⟨negative, whole, fraction, none⟩ r
  | (whole, r) => Literal.withExponent? ⟨negative, whole, [], none⟩ r

def bareToken? (s : List Char) : Option Token :=
  if s = ['t', 'r', 'u', 'e'] then some (.truth true)
  else if s = ['f', 'a', 'l', 's', 'e'] then some (.truth false)
  else if s = ['n', 'u', 'l', 'l'] then some .null
  else (Literal.ofChars? s).map .number

def punctuation? (c : Char) : Option Token :=
  match c with
  | '[' => some .openArray
  | ']' => some .closeArray
  | '\x7b' => some .openObject
  | '\x7d' => some .closeObject
  | ',' => some .comma
  | ':' => some .colon
  | _ => none

def isBare (c : Char) : Bool := c.isAlphanum || c = '+' || c = '-' || c = '.'

def shortEscape? (c : Char) : Option Char :=
  match c with
  | '"' => some '"'
  | '\\' => some '\\'
  | '/' => some '/'
  | 'b' => some '\x08'
  | 'f' => some '\x0c'
  | 'n' => some '\n'
  | 'r' => some '\r'
  | 't' => some '\t'
  | _ => none

-- Where the machine stands. What it has read of a token is kept last character first.
inductive Mode where
  | between
  | bare (word : List Char)
  | text (pieces : List Piece)
  | escape (pieces : List Piece)
  | code (pieces : List Piece) (left value : Nat)
  deriving DecidableEq, Repr

structure Lexer where
  mode : Mode
  tokens : List Token
  deriving DecidableEq, Repr

def Lexer.start : Lexer := ⟨.between, []⟩

def Lexer.next (tokens : List Token) (c : Char) : Option Lexer :=
  if isSpace c then some ⟨.between, tokens⟩
  else if c = '"' then some ⟨.text [], tokens⟩
  else if isBare c then some ⟨.bare [c], tokens⟩
  else (punctuation? c).map fun t => ⟨.between, t :: tokens⟩

def Lexer.feed (lexer : Lexer) (c : Char) : Option Lexer :=
  match lexer.mode with
  | .between => Lexer.next lexer.tokens c
  | .bare word =>
    if isBare c then some {lexer with mode := .bare (c :: word)}
    else (bareToken? word.reverse).bind fun t => Lexer.next (t :: lexer.tokens) c
  | .text pieces =>
    if c = '"' then some ⟨.between, .text pieces.reverse :: lexer.tokens⟩
    else if c = '\\' then some {lexer with mode := .escape pieces}
    else if c < ' ' then none
    else some {lexer with mode := .text (.char c :: pieces)}
  | .escape pieces =>
    if c = 'u' then some {lexer with mode := .code pieces 3 0}
    else (shortEscape? c).map fun e => {lexer with mode := .text (.char e :: pieces)}
  | .code pieces left value =>
    (Text.hexDigit? c).map fun d =>
      match left with
      | 0 => {lexer with mode := .text (.unit (value * 16 + d) :: pieces)}
      | left + 1 => {lexer with mode := .code pieces left (value * 16 + d)}

def Lexer.finish (lexer : Lexer) : Option (List Token) :=
  match lexer.mode with
  | .between => some lexer.tokens.reverse
  | .bare word => (bareToken? word.reverse).map fun t => (t :: lexer.tokens).reverse
  | _ => none

def tokens? (s : List Char) : Option (List Token) :=
  (s.foldlM Lexer.feed Lexer.start).bind Lexer.finish

end ToolGateway.Json
