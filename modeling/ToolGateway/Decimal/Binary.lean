namespace ToolGateway.Decimal

-- `precision` bits of significand; units from `2 ^ least` to `2 ^ greatest`.
structure Format where
  precision : Nat
  least : Int
  greatest : Int

def double : Format := ⟨53, -1074, 971⟩
def single : Format := ⟨24, -149, 104⟩

-- The value `significand * 2 ^ exponent`.
structure Magnitude where
  significand : Nat
  exponent : Int
  deriving DecidableEq, Repr

structure Finite where
  negative : Bool
  magnitude : Magnitude
  deriving DecidableEq, Repr

inductive Floating where
  | nan
  | infinite (negative : Bool)
  | finite (x : Finite)
  deriving DecidableEq, Repr

def divideEven (n d : Nat) : Nat :=
  if 2 * (n % d) < d ∨ (2 * (n % d) = d ∧ n / d % 2 = 0) then n / d else n / d + 1

def leadingExponent (n d : Nat) : Int :=
  let guess : Int := (n.log2 : Int) - d.log2
  if d * Nat.pow 2 guess.toNat ≤ n * Nat.pow 2 (-guess).toNat then guess else guess - 1

def round (f : Format) (n d : Nat) : Option Magnitude :=
  if n = 0 then some ⟨0, f.least⟩ else
  let unit := max f.least (leadingExponent n d - f.precision + 1)
  let significand := divideEven (n * Nat.pow 2 (-unit).toNat) (d * Nat.pow 2 unit.toNat)
  let rounded : Magnitude :=
    if significand = Nat.pow 2 f.precision then ⟨Nat.pow 2 (f.precision - 1), unit + 1⟩ else ⟨significand, unit⟩
  if f.greatest < rounded.exponent then none else some rounded

def Magnitude.numerator (x : Magnitude) : Nat := x.significand * Nat.pow 2 x.exponent.toNat
def Magnitude.denominator (x : Magnitude) : Nat := Nat.pow 2 (-x.exponent).toNat

def Magnitude.times (f : Format) (x y : Magnitude) : Option Magnitude :=
  round f (x.numerator * y.numerator) (x.denominator * y.denominator)

def Magnitude.over (f : Format) (x y : Magnitude) : Option Magnitude :=
  round f (x.numerator * y.denominator) (x.denominator * y.numerator)

-- Above this power of ten every format overflows, and as far below it every one underflows.
def powerBound : Nat := 400

-- The nearest magnitude to `digits * 10 ^ power`, where `digits` is written with `count` digits.
def nearest (f : Format) (digits count : Nat) (power : Int) : Option Magnitude :=
  if digits = 0 ∨ power + count < -powerBound then some ⟨0, f.least⟩
  else if powerBound < power then none
  else round f (digits * Nat.pow 10 power.toNat) (Nat.pow 10 (-power).toNat)

def ofMagnitude (negative : Bool) : Option Magnitude → Floating
  | none => .infinite negative
  | some x => .finite ⟨negative, x⟩

def Floating.recast (f : Format) : Floating → Floating
  | .finite x => ofMagnitude x.negative (round f x.magnitude.numerator x.magnitude.denominator)
  | x => x

end ToolGateway.Decimal
