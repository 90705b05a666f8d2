import ToolGateway.Text.Composed
import ToolGateway.Text.Direction
import ToolGateway.Text.Joining
import ToolGateway.Url.Domain.Form
import ToolGateway.Url.Punycode

namespace ToolGateway.Url.Domain

open Text

-- The characters that a label stands for, and those that it is written with.
structure Label where
  name : List Char
  written : List Char
  deriving DecidableEq, Repr

def isAscii (s : List Char) : Bool := s.all fun c => c.toNat < 128

def notInDomain (c : Char) : Bool := c ≤ ' ' || c = '\x7f' || "%#/:<>?@[\\]^|".toList.contains c

def joiner : Char := '\u200d'
def separator : Char := '\u200c'

-- Both stand behind a virama; the one that separates also stands between letters that would join.
def joinerFits (c : Char) (before after : List Char) : Bool :=
  before.head?.any isVirama ||
    (c == separator && nextJoins joinsBehind before && nextJoins joinsBefore after)

def joinersFit (before : List Char) : List Char → Bool
  | [] => true
  | c :: after =>
    ((c != joiner && c != separator) || joinerFits c before after) && joinersFit (c :: before) after

def longestName : Nat := 1000
def longestCode : Nat := 2000

def isSound (name : List Char) : Bool :=
  name.length ≤ longestName && !name.any notInDomain && !name.head?.any isMark && joinersFit [] name

def codeMark : List Char := "xn--".toList

-- The name that stands in Punycode behind the mark. It has to be written in its own form.
def decoded? (code : List Char) : Option (List Char) :=
  if longestCode < code.length || !isAscii code || code.getLast?.all (· == '-') then none
  else (Punycode.decode? code).filter fun name => name.all isPlain && composed name == name

def label? (text : List Char) : Option Label :=
  let s := if isAscii text then text else composed text
  match dropStart? codeMark s with
  | some code => ((decoded? code).filter isSound).map fun name => ⟨name, s⟩
  | none =>
    if isAscii s then if s.any notInDomain then none else some ⟨s, s⟩
    else if isSound s then some ⟨s, codeMark ++ Punycode.encode s⟩
    else none

def turns (c : Char) : Bool :=
  128 ≤ c.toNat && (direction c == .toLeft || direction c == .arabicDigit)

-- A label of such a name starts with a letter and ends with a letter or a digit, marks behind it
-- aside. Nothing in it is of the other direction, and its digits are of one kind.
def inOrder (name : List Char) : Bool :=
  match name.map direction with
  | [] => true
  | first :: rest =>
    let rest := rest.reverse.dropWhile (· == .mark)
    let last := rest.head?.getD first
    match first with
    | .toRight =>
      (last == .toRight || last == .digit) && !rest.contains .toLeft && !rest.contains .arabicDigit
    | .toLeft =>
      (last == .toLeft || last == .digit || last == .arabicDigit) && !rest.contains .toRight &&
        !(rest.contains .digit && rest.contains .arabicDigit)
    | _ => false

end ToolGateway.Url.Domain
