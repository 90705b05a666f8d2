import ToolGateway.Text.Digit

namespace ToolGateway.Toml

abbrev Reading (α : Type) := Option (α × List Char)

def isControl (c : Char) : Bool := c.toNat < 0x20 || c.toNat = 0x7F

def isPlain (c : Char) : Bool := c = '\t' || !isControl c

def isWs (c : Char) : Bool := c = ' ' || c = '\t'

-- The character of a code point; surrogates and numbers above the last one have none.
def codePoint? (digits : List Char) : Option Char :=
  (Text.spelled? 16 digits).bind fun n =>
    if n < 0xD800 ∨ (0xDFFF < n ∧ n < 0x110000) then some (Char.ofNat n) else none

def shortEscape? (c : Char) : Option Char :=
  match c with
  | '"' => some '"'
  | '\\' => some '\\'
  | 'b' => some '\x08'
  | 'f' => some '\x0c'
  | 'n' => some '\n'
  | 'r' => some '\r'
  | 't' => some '\t'
  | _ => none

def prepend (c : Option Char) (read : Reading (List Char)) : Reading (List Char) :=
  c.bind fun c => read.map fun (text, rest) => (c :: text, rest)

def quoted : List Char → Reading (List Char)
  | [] => none
  | '"' :: rest => some ([], rest)
  | '\\' :: 'u' :: a :: b :: c :: d :: rest => prepend (codePoint? [a, b, c, d]) (quoted rest)
  | '\\' :: 'U' :: a :: b :: c :: d :: e :: f :: g :: h :: rest =>
    prepend (codePoint? [a, b, c, d, e, f, g, h]) (quoted rest)
  | '\\' :: e :: rest => prepend (shortEscape? e) (quoted rest)
  | c :: rest => if isPlain c then prepend (some c) (quoted rest) else none

def literal : List Char → Reading (List Char)
  | [] => none
  | '\'' :: rest => some ([], rest)
  | c :: rest => if isPlain c then prepend (some c) (literal rest) else none

def endsLine (s : List Char) : Bool :=
  match s.dropWhile isWs with
  | '\n' :: _ => true
  | '\r' :: '\n' :: _ => true
  | _ => false

-- A quoted string of many lines; `skipping` passes over the blanks behind an escaped line end.
def quotedLines : Bool → List Char → Reading (List Char)
  | _, [] => none
  | true, ' ' :: rest => quotedLines true rest
  | true, '\t' :: rest => quotedLines true rest
  | true, '\n' :: rest => quotedLines true rest
  | skipping, '\r' :: '\n' :: rest =>
    if skipping then quotedLines true rest else prepend (some '\n') (quotedLines false rest)
  | _, '"' :: '"' :: '"' :: '"' :: '"' :: rest => some (['"', '"'], rest)
  | _, '"' :: '"' :: '"' :: '"' :: rest => some (['"'], rest)
  | _, '"' :: '"' :: '"' :: rest => some ([], rest)
  | _, '\\' :: 'u' :: a :: b :: c :: d :: rest => prepend (codePoint? [a, b, c, d]) (quotedLines false rest)
  | _, '\\' :: 'U' :: a :: b :: c :: d :: e :: f :: g :: h :: rest =>
    prepend (codePoint? [a, b, c, d, e, f, g, h]) (quotedLines false rest)
  | _, '\\' :: e :: rest =>
    if endsLine (e :: rest) then quotedLines true (e :: rest)
    else prepend (shortEscape? e) (quotedLines false rest)
  | _, c :: rest =>
    if isPlain c || c = '\n' then prepend (some c) (quotedLines false rest) else none

def literalLines : List Char → Reading (List Char)
  | [] => none
  | '\'' :: '\'' :: '\'' :: '\'' :: '\'' :: rest => some (['\'', '\''], rest)
  | '\'' :: '\'' :: '\'' :: '\'' :: rest => some (['\''], rest)
  | '\'' :: '\'' :: '\'' :: rest => some ([], rest)
  | '\r' :: '\n' :: rest => prepend (some '\n') (literalLines rest)
  | c :: rest => if isPlain c || c = '\n' then prepend (some c) (literalLines rest) else none

def dropNewline (s : List Char) : List Char :=
  match s with
  | '\n' :: rest => rest
  | '\r' :: '\n' :: rest => rest
  | _ => s

-- Any string, by what it opens with; none when no string starts here.
def text? (s : List Char) : Option (Reading (List Char)) :=
  match s with
  | '"' :: '"' :: '"' :: rest => some (quotedLines false (dropNewline rest))
  | '"' :: rest => some (quoted rest)
  | '\'' :: '\'' :: '\'' :: rest => some (literalLines (dropNewline rest))
  | '\'' :: rest => some (literal rest)
  | _ => none

end ToolGateway.Toml
