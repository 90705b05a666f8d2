import ToolGateway.Decimal.Binary
import ToolGateway.Text.Digit

namespace ToolGateway.Decimal

def valueOf (digits : List Char) : Nat := digits.foldl (fun n c => n * 10 + Text.digitValue c) 0

def signed (s : List Char) : Bool × List Char :=
  match s with
  | '-' :: rest => (true, rest)
  | '+' :: rest => (false, rest)
  | rest => (false, rest)

def readDigits? (s : List Char) : Option Nat :=
  if s.isEmpty || !s.all Char.isDigit then none else some (valueOf s)

def readUnsigned? (s : List Char) : Option Nat :=
  let digits := match s with
    | '+' :: rest => rest
    | rest => rest
  (readDigits? digits).bind fun n => if n < Nat.pow 2 64 then some n else none

def readSigned? (s : List Char) : Option Int :=
  let (negative, digits) := signed s
  (readDigits? digits).bind fun n =>
    if negative then if n ≤ Nat.pow 2 63 then some (-(n : Int)) else none
    else if n < Nat.pow 2 63 then some n else none

def readExponent? : List Char → Option Int
  | [] => some 0
  | mark :: rest =>
    if mark = 'e' ∨ mark = 'E' then
      let (negative, digits) := signed rest
      (readDigits? digits).map fun n => if negative then -(n : Int) else n
    else none

-- The magnitude of an unsigned decimal; there must be a digit before or after the point.
def readMagnitude? (s : List Char) : Option (Option Magnitude) :=
  let whole := s.takeWhile Char.isDigit
  let rest := s.dropWhile Char.isDigit
  let (fraction, rest) := match rest with
    | '.' :: rest => (rest.takeWhile Char.isDigit, rest.dropWhile Char.isDigit)
    | rest => ([], rest)
  if whole.isEmpty && fraction.isEmpty then none
  else (readExponent? rest).map fun power =>
    let digits := whole ++ fraction
    nearest double (valueOf digits) digits.length (power - fraction.length)

def readFloating? (s : List Char) : Option Floating :=
  let (negative, unsigned) := signed s
  let word := String.ofList (unsigned.map Char.toLower)
  if word = "inf" ∨ word = "infinity" then some (.infinite negative)
  else if word = "nan" then some .nan
  else (readMagnitude? unsigned).map (ofMagnitude negative)

def ofInt (n : Int) : Floating := ofMagnitude (n < 0) (round double n.natAbs 1)

def Magnitude.roundHalfUp (x : Magnitude) : Nat := (2 * x.numerator + x.denominator) / (2 * x.denominator)

-- The nearest unsigned number of 64 bits; what is no number counts as zero.
def Floating.toUnsigned : Floating → Nat
  | .nan => 0
  | .infinite negative => if negative then 0 else Nat.pow 2 64 - 1
  | .finite x => if x.negative then 0 else min x.magnitude.roundHalfUp (Nat.pow 2 64 - 1)

end ToolGateway.Decimal
