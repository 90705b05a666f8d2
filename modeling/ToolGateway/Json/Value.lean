import ToolGateway.Json.Basic
import ToolGateway.Json.Tree
import ToolGateway.Decimal.Scaled

namespace ToolGateway.Json

def isHigh (code : Nat) : Bool := 0xD800 ≤ code && code < 0xDC00
def isLow (code : Nat) : Bool := 0xDC00 ≤ code && code < 0xE000

-- A high half must be followed by a low one, and a low half may not stand alone.
def textChars? : List Piece → Option (List Char)
  | [] => some []
  | .char c :: rest => (textChars? rest).map (c :: ·)
  | .unit high :: .unit low :: rest =>
    if isHigh high then
      if isLow low then
        (textChars? rest).map (Char.ofNat (0x10000 + (high - 0xD800) * 0x400 + (low - 0xDC00)) :: ·)
      else none
    else if isLow high then none
    else (textChars? (.unit low :: rest)).map (Char.ofNat high :: ·)
  | .unit code :: rest =>
    if isHigh code || isLow code then none else (textChars? rest).map (Char.ofNat code :: ·)

def textOf? (pieces : List Piece) : Option String := (textChars? pieces).map String.ofList

def Literal.real? (l : Literal) : Option Json :=
  let lead := Decimal.leading l.whole l.fraction
  (Decimal.scaled lead.significand (lead.power + l.exponent.getD 0)).map fun x => .real ⟨l.negative, x⟩

-- Without point and exponent a number stays whole as long as a word holds it; minus zero is real.
def Literal.value? (l : Literal) : Option Json :=
  let n : Int := digitsValue l.whole
  if l.fraction.isEmpty && l.exponent.isNone then
    if l.negative then
      if 0 < n ∧ wholeLow ≤ -n then some (.whole (-n)) else l.real?
    else if n < wholeHigh then some (.whole n) else l.real?
  else l.real?

-- `depth` is the number of brackets that may still be opened.
mutual
def Tree.value? (depth : Nat) : Tree → Option Json
  | .null => some .null
  | .truth b => some (.bool b)
  | .number l => l.value?
  | .text p => (textOf? p).map .text
  | .array items =>
    match depth with
    | 0 => none
    | depth + 1 => (itemValues? depth items).map .array
  | .object members =>
    match depth with
    | 0 => none
    | depth + 1 => (memberValues? depth members).map record
def itemValues? (depth : Nat) : List Tree → Option (List Json)
  | [] => some []
  | t :: rest => do
    let v ← t.value? depth
    let vs ← itemValues? depth rest
    some (v :: vs)
def memberValues? (depth : Nat) : List (Name × Tree) → Option (List (String × Json))
  | [] => some []
  | (name, t) :: rest => do
    let key ← textOf? name
    let v ← t.value? depth
    let vs ← memberValues? depth rest
    some ((key, v) :: vs)
end

def maxDepth : Nat := 127

def parseWithin? (depth : Nat) (s : List Char) : Option Json := (Tree.ofChars? s).bind (Tree.value? depth)

def parseChars? (s : List Char) : Option Json := parseWithin? maxDepth s

def parse? (s : String) : Option Json := parseChars? s.toList

end ToolGateway.Json
