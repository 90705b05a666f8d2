import ToolGateway.Decimal.Binary

namespace ToolGateway.Decimal

structure Digits where
  digits : Nat
  power : Int
  deriving DecidableEq, Repr

inductive Tie where
  | even
  | up
  deriving DecidableEq, Repr

-- A quarter of the number's unit measures the interval: the ends are odd multiples of it.
structure Interval where
  low : Nat
  centre : Nat
  high : Nat
  exponent : Int
  closed : Bool

-- The gap below a power of two is half the gap above it.
def interval (f : Format) (x : Magnitude) : Interval :=
  let tight := x.significand = Nat.pow 2 (f.precision - 1) ∧ f.least < x.exponent
  ⟨4 * x.significand - (if tight then 1 else 2), 4 * x.significand, 4 * x.significand + 2,
    x.exponent - 2, x.significand % 2 = 0⟩

def gridSide (c : Nat) (power exponent : Int) : Nat := c * Nat.pow 10 power.toNat * Nat.pow 2 (-exponent).toNat
def realSide (quarter : Nat) (power exponent : Int) : Nat := quarter * Nat.pow 2 exponent.toNat * Nat.pow 10 (-power).toNat

def Interval.holds (i : Interval) (c : Nat) (power : Int) : Bool :=
  let point := gridSide c power i.exponent
  let low := realSide i.low power i.exponent
  let high := realSide i.high power i.exponent
  if i.closed then low ≤ point && point ≤ high else low < point && point < high

def Interval.pick (i : Interval) (tie : Tie) (power : Int) : Option Digits :=
  let centre := realSide i.centre power i.exponent
  let below := centre / gridSide 1 power i.exponent
  match i.holds below power, i.holds (below + 1) power with
  | false, false => none
  | true, false => some ⟨below, power⟩
  | false, true => some ⟨below + 1, power⟩
  | true, true =>
    let left := centre - gridSide below power i.exponent
    let right := gridSide (below + 1) power i.exponent - centre
    let upward := match tie with
      | .even => below % 2 == 1
      | .up => true
    some ⟨if right < left || (right == left && upward) then below + 1 else below, power⟩

def leadingPower (x : Magnitude) : Int :=
  if x.denominator ≤ x.numerator then
    ((Nat.toDigits 10 (x.numerator / x.denominator)).length : Int) - 1
  else -((Nat.toDigits 10 ((x.denominator - 1) / x.numerator)).length : Int)

-- Seventeen digits tell any two doubles apart.
def mostDigits : Nat := 17

def shortest (f : Format) (tie : Tie) (x : Magnitude) : Digits :=
  let lead := leadingPower x
  ((List.range mostDigits).findSome? fun (k : Nat) => (interval f x).pick tie (lead - k)).getD ⟨0, 0⟩

end ToolGateway.Decimal
