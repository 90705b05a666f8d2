import ToolGateway.Text.Search

namespace ToolGateway.Url.Punycode

def base : Nat := 36
def damping : Nat := 700
def firstBias : Nat := 72
def firstCode : Nat := 128

def digitChar (d : Nat) : Char := if d < 26 then Char.ofNat ('a'.toNat + d) else Char.ofNat ('0'.toNat + d - 26)

def threshold (place bias : Nat) : Nat := min 26 (max 1 (place - bias))

-- The digits of a number; the count bounds them by the number itself.
def digits (bias : Nat) : Nat → Nat → Nat → List Char
  | 0, _, _ => []
  | count + 1, place, n =>
    let t := threshold place bias
    if n < t then [digitChar n]
    else digitChar (t + (n - t) % (base - t)) :: digits bias count (place + base) ((n - t) / (base - t))

def number (bias n : Nat) : List Char := digits bias (n + 1) base n

def reduce : Nat → Nat → Nat → Nat × Nat
  | 0, steps, n => (steps, n)
  | count + 1, steps, n => if 455 < n then reduce count (steps + 1) (n / 35) else (steps, n)

def adapt (n points : Nat) (first : Bool) : Nat :=
  let scaled := if first then n / damping else n / 2
  let (steps, rest) := reduce scaled 0 (scaled + scaled / points)
  base * steps + base * rest / (rest + 38)

structure Writer where
  written : List Char
  delta : Nat
  bias : Nat
  points : Nat

-- One pass over the name for one character code: lower codes lengthen the next number.
def Writer.see (ascii code : Nat) (w : Writer) (c : Char) : Writer :=
  if c.toNat < code then {w with delta := w.delta + 1}
  else if c.toNat = code then
    ⟨w.written ++ number w.bias w.delta, 0, adapt w.delta (w.points + 1) (w.points == ascii), w.points + 1⟩
  else w

def Writer.pass (name : List Char) (ascii : Nat) (w : Writer × Nat) (code : Nat) : Writer × Nat :=
  let started := {w.1 with delta := w.1.delta + (code - w.2) * (w.1.points + 1)}
  let done := name.foldl (Writer.see ascii code) started
  ({done with delta := done.delta + 1}, code + 1)

def codes (name : List Char) : List Nat :=
  (((name.map Char.toNat).filter (firstCode ≤ ·)).mergeSort).eraseDups

def encode (name : List Char) : List Char :=
  let ascii := name.filter fun c => c.toNat < firstCode
  let start : Writer := ⟨[], 0, firstBias, ascii.length⟩
  let done := ((codes name).foldl (Writer.pass name ascii.length) (start, firstCode)).1
  (if ascii.isEmpty then [] else ascii ++ ['-']) ++ done.written

def digitValue? (c : Char) : Option Nat :=
  if 'a' ≤ c ∧ c ≤ 'z' then some (c.toNat - 'a'.toNat)
  else if c.isDigit then some (c.toNat - '0'.toNat + 26)
  else none

-- Numbers and the weights of their digits stay below this.
def limit : Nat := Nat.pow 2 32

structure Reader where
  name : List Char
  code : Nat
  start : Nat
  position : Nat
  weight : Nat
  place : Nat
  bias : Nat

def Reader.insert? (r : Reader) (position : Nat) : Option Reader :=
  let points := r.name.length + 1
  let code := r.code + position / points
  let index := position % points
  if code.isValidChar then
    some ⟨r.name.take index ++ Char.ofNat code :: r.name.drop index, code, index + 1, index + 1, 1, base,
      adapt (position - r.start) points (r.start == 0)⟩
  else none

-- A digit below the threshold of its place is the last one of its number.
def Reader.digit? (r : Reader) (d : Nat) : Option Reader :=
  let position := r.position + d * r.weight
  let t := threshold r.place r.bias
  let weight := r.weight * (base - t)
  if limit ≤ position then none
  else if d < t then r.insert? position
  else if limit ≤ weight then none
  else some {r with position, weight, place := r.place + base}

def Reader.see? (r : Reader) (c : Char) : Option Reader := (digitValue? c).bind r.digit?

def read? (ascii digits : List Char) : Option (List Char) :=
  ((digits.foldlM Reader.see? ⟨ascii, firstCode, 0, 0, 1, base, firstBias⟩).filter fun r =>
    r.place == base).map Reader.name

def decode? (s : List Char) : Option (List Char) :=
  match Text.cutLast '-' s with
  | none => read? [] s
  | some ([], _) => none
  | some (ascii, digits) => read? ascii digits

end ToolGateway.Url.Punycode
