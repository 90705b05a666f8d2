import ToolGateway.Decimal.Binary

namespace ToolGateway.Decimal

def lastPower : Nat := 308

def tenPower (k : Nat) : Magnitude := (round double (Nat.pow 10 k) 1).getD ⟨0, double.least⟩

-- Divides by the last power of ten until the number vanishes or the count runs out.
def shrink : Nat → Magnitude → Magnitude
  | 0, x => x
  | count + 1, x =>
    if x.significand = 0 then x
    else shrink count ((x.over double (tenPower lastPower)).getD ⟨0, double.least⟩)

def scaled (significand : Nat) (power : Int) : Option Magnitude := do
  let x ← round double significand 1
  if x.significand = 0 then some x
  else if (lastPower : Int) < power then none
  else if 0 ≤ power then x.times double (tenPower power.toNat)
  else
    let steps := ((-power).toNat - 1) / lastPower
    (shrink steps x).over double (tenPower ((-power).toNat - steps * lastPower))

-- The leading digits that fit into 64 bits, and the power of ten of the last of them. Digits left
-- out before the point raise the power; after the point the first one left out ends the number.
structure Leading where
  significand : Nat
  power : Int
  full : Bool

def leadingLimit : Nat := Nat.pow 2 64

def Leading.whole (x : Leading) (digit : Nat) : Leading :=
  if x.full then {x with power := x.power + 1}
  else if x.significand * 10 + digit < leadingLimit then {x with significand := x.significand * 10 + digit}
  else {x with power := x.power + 1, full := true}

def Leading.fraction (x : Leading) (digit : Nat) : Leading :=
  if x.full then x
  else if x.significand * 10 + digit < leadingLimit then
    {x with significand := x.significand * 10 + digit, power := x.power - 1}
  else {x with full := true}

def leading (whole fraction : List Nat) : Leading :=
  let start := whole.foldl Leading.whole ⟨0, 0, false⟩
  fraction.foldl Leading.fraction {start with full := false}

end ToolGateway.Decimal
