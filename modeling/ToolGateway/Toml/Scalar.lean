import ToolGateway.Config.Value
import ToolGateway.Toml.Text

namespace ToolGateway.Toml

-- The digits without their underscores, each of which must stand between two of them.
def groupedDigits? (isDigit : Char → Bool) : List Char → Option (List Char)
  | [] => none
  | [c] => if isDigit c then some [c] else none
  | c :: '_' :: rest => if isDigit c then (groupedDigits? isDigit rest).map (c :: ·) else none
  | c :: rest => if isDigit c then (groupedDigits? isDigit rest).map (c :: ·) else none

def isBinary (c : Char) : Bool := c = '0' || c = '1'
def isOctal (c : Char) : Bool := '0' ≤ c && c ≤ '7'
def isHex (c : Char) : Bool := (Text.hexDigit? c).isSome

def inWord (n : Int) : Option Config.Value :=
  if -Int.pow 2 63 ≤ n ∧ n < Int.pow 2 63 then some (.int n) else none

def wholeDigits? (s : List Char) : Option (List Char) :=
  match groupedDigits? Char.isDigit s with
  | some ('0' :: _ :: _) => none
  | digits => digits

def integer? (s : List Char) : Option Config.Value :=
  let based (base : Nat) (isDigit : Char → Bool) (digits : List Char) : Option Config.Value :=
    ((groupedDigits? isDigit digits).bind (Text.spelled? base)).bind fun n => inWord n
  match s with
  | '0' :: 'x' :: digits => based 16 isHex digits
  | '0' :: 'o' :: digits => based 8 isOctal digits
  | '0' :: 'b' :: digits => based 2 isBinary digits
  | _ =>
    let (negative, digits) := Decimal.signed s
    (wholeDigits? digits).bind fun ds =>
      let n : Int := Decimal.valueOf ds
      inWord (if negative then -n else n)

def exponent? : List Char → Option Int
  | [] => some 0
  | mark :: rest =>
    if mark = 'e' ∨ mark = 'E' then
      let (negative, digits) := Decimal.signed rest
      (groupedDigits? Char.isDigit digits).map fun ds =>
        let n : Int := Decimal.valueOf ds
        if negative then -n else n
    else none

def isNumeral (c : Char) : Bool := c.isDigit || c = '_'

-- A number above all doubles is refused; one below them all is not.
def float? (s : List Char) : Option Config.Value :=
  let (negative, unsigned) := Decimal.signed s
  if unsigned = ['i', 'n', 'f'] then some (.float (.infinite negative))
  else if unsigned = ['n', 'a', 'n'] then some (.float .nan)
  else do
    let whole ← wholeDigits? (unsigned.takeWhile isNumeral)
    let (fraction, rest) ← match unsigned.dropWhile isNumeral with
      | '.' :: rest => (groupedDigits? Char.isDigit (rest.takeWhile isNumeral)).map fun ds =>
          (ds, rest.dropWhile isNumeral)
      | rest => if rest.isEmpty then none else some ([], rest)
    let power ← exponent? rest
    let digits := whole ++ fraction
    match Decimal.ofMagnitude negative
        (Decimal.nearest Decimal.double (Decimal.valueOf digits) digits.length (power - fraction.length)) with
    | .infinite false => none
    | x => some (.float x)

def field? (digits : List Char) (low high : Nat) : Option Nat :=
  (Decimal.readDigits? digits).bind fun n => if low ≤ n ∧ n ≤ high then some n else none

def monthDays (year month : Nat) : Nat :=
  if month = 2 then if (year % 4 = 0 ∧ year % 100 ≠ 0) ∨ year % 400 = 0 then 29 else 28
  else if month = 4 ∨ month = 6 ∨ month = 9 ∨ month = 11 then 30 else 31

def date? : List Char → Option (List Char × List Char)
  | y :: e :: a :: r :: '-' :: m :: o :: '-' :: d :: n :: rest => do
    let year ← field? [y, e, a, r] 0 9999
    let month ← field? [m, o] 1 12
    let _ ← field? [d, n] 1 (monthDays year month)
    some ([y, e, a, r, '-', m, o, '-', d, n], rest)
  | _ => none

-- The fraction of a second: nine digits count, and zeros at its end are not written.
def fractionText (digits : List Char) : List Char :=
  match ((digits.take 9).reverse.dropWhile (· = '0')).reverse with
  | [] => []
  | kept => '.' :: kept

def time? : List Char → Option (List Char × List Char)
  | h :: o :: ':' :: m :: i :: ':' :: s :: e :: rest => do
    let _ ← field? [h, o] 0 23
    let _ ← field? [m, i] 0 59
    let _ ← field? [s, e] 0 60
    let clock := [h, o, ':', m, i, ':', s, e]
    match rest with
    | '.' :: more =>
      let digits := more.takeWhile Char.isDigit
      if digits.isEmpty then none
      else some (clock ++ fractionText digits, more.dropWhile Char.isDigit)
    | _ => some (clock, rest)
  | _ => none

-- The offset from universal time that may end a text; minus zero is plus zero.
def offset? : List Char → Option (List Char)
  | [] => some []
  | ['Z'] => some ['Z']
  | ['z'] => some ['Z']
  | [sign, h, o, ':', m, i] =>
    if sign = '+' ∨ sign = '-' then do
      let hours ← field? [h, o] 0 23
      let minutes ← field? [m, i] 0 59
      some ((if hours = 0 ∧ minutes = 0 then '+' else sign) :: [h, o, ':', m, i])
    else none
  | _ => none

def isTimeMark (c : Char) : Bool := c = 'T' || c = 't' || c = ' '

def dateTime? (s : List Char) : Option Config.Value :=
  let normal : Option (List Char) := match date? s with
    | some (date, []) => some date
    | some (date, mark :: rest) =>
      if isTimeMark mark then do
        let (time, rest) ← time? rest
        let offset ← offset? rest
        some (date ++ 'T' :: (time ++ offset))
      else none
    | none => match time? s with
      | some (time, []) => some time
      | _ => none
  normal.map fun chars => .text (String.ofList chars)

def isWordChar (c : Char) : Bool := c.isAlphanum || c = '_' || c = '+' || c = '-' || c = '.' || c = ':'

-- A word ends at the first character that no scalar has; a blank between a date and a time joins them.
def word (s : List Char) : List Char × List Char :=
  let first := s.takeWhile isWordChar
  match date? first, s.dropWhile isWordChar with
  | some (_, []), ' ' :: c :: rest =>
    if c.isDigit then (first ++ ' ' :: (c :: rest).takeWhile isWordChar, (c :: rest).dropWhile isWordChar)
    else (first, ' ' :: c :: rest)
  | _, rest => (first, rest)

def scalar? (s : List Char) : Reading Config.Value :=
  let (chars, rest) := word s
  let value : Option Config.Value :=
    if chars = ['t', 'r', 'u', 'e'] then some (.bool true)
    else if chars = ['f', 'a', 'l', 's', 'e'] then some (.bool false)
    else ((dateTime? chars).or (float? chars)).or (integer? chars)
  value.map fun v => (v, rest)

end ToolGateway.Toml
