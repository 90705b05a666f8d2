import ToolGateway.Decimal.Shortest

namespace ToolGateway.Decimal

structure Layout where
  -- Positions of the point, counted from the first digit, that are written positionally.
  positional : Option (Int × Int)
  wholeFraction : Bool
  tie : Tie

def Digits.split (d : Digits) : List Char × Int :=
  let chars := Nat.toDigits 10 d.digits
  ((chars.reverse.dropWhile (· = '0')).reverse, chars.length + d.power)

def positionalText (layout : Layout) (digits : List Char) (point : Int) : List Char :=
  let wide := point.toNat
  let whole := if point ≤ 0 then ['0'] else digits.take wide ++ List.replicate (wide - digits.length) '0'
  let fraction := if point ≤ 0 then List.replicate (-point).toNat '0' ++ digits else digits.drop wide
  match fraction with
  | [] => if layout.wholeFraction then whole ++ ['.', '0'] else whole
  | _ => whole ++ '.' :: fraction

def exponentText (digits : List Char) (point : Int) : List Char :=
  let mantissa := match digits with
    | [] => []
    | [d] => [d]
    | d :: more => d :: '.' :: more
  let power := point - 1
  mantissa ++ 'e' :: (if power < 0 then '-' else '+') :: Nat.toDigits 10 power.natAbs

def magnitudeText (f : Format) (layout : Layout) (x : Magnitude) : List Char :=
  if x.significand = 0 then if layout.wholeFraction then ['0', '.', '0'] else ['0']
  else
    let (digits, point) := (shortest f layout.tie x).split
    match layout.positional with
    | none => positionalText layout digits point
    | some (first, last) =>
      if first ≤ point ∧ point ≤ last then positionalText layout digits point
      else exponentText digits point

def finiteText (f : Format) (layout : Layout) (x : Finite) : List Char :=
  if x.negative then '-' :: magnitudeText f layout x.magnitude else magnitudeText f layout x.magnitude

def plain : Layout := ⟨none, false, .up⟩

def Floating.plainText (f : Format) : Floating → List Char
  | .nan => ['N', 'a', 'N']
  | .infinite negative => if negative then ['-', 'i', 'n', 'f'] else ['i', 'n', 'f']
  | .finite x => finiteText f plain x

end ToolGateway.Decimal
