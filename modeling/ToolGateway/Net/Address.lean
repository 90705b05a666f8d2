import ToolGateway.Text.Digit

namespace ToolGateway.Net

inductive Ip where
  | v4 (octets : List Nat)
  | v6 (groups : List Nat) (scope : Nat)
  deriving DecidableEq, Repr

structure Address where
  ip : Ip
  port : Nat
  deriving DecidableEq, Repr

def number? (base most limit : Nat) (leadingZeros : Bool) (s : List Char) : Option (Nat × List Char) :=
  let digits := (s.take most).takeWhile fun c => (Text.digitIn? base c).isSome
  let n := (Text.spelled? base digits).getD 0
  let superfluous := !leadingZeros && 1 < digits.length && digits.head? == some '0'
  if digits.isEmpty || limit ≤ n || superfluous then none
  else some (n, s.drop digits.length)

def decimal? (limit : Nat) (s : List Char) : Option (Nat × List Char) := number? 10 s.length limit true s

def sep? (c : Char) (s : List Char) : Option (List Char) :=
  match s with
  | d :: rest => if c = d then some rest else none
  | [] => none

def octets? (s : List Char) : Option (List Nat × List Char) := do
  let (a, s) ← number? 10 3 256 false s
  let s ← sep? '.' s
  let (b, s) ← number? 10 3 256 false s
  let s ← sep? '.' s
  let (c, s) ← number? 10 3 256 false s
  let s ← sep? '.' s
  let (d, s) ← number? 10 3 256 false s
  some ([a, b, c, d], s)

def groupsOf (octets : List Nat) : List Nat :=
  match octets with
  | [a, b, c, d] => [a * 256 + b, c * 256 + d]
  | _ => []

-- Up to `count` groups with colons between them; true when they ended in an IPv4 address.
def groups : Nat → Bool → List Char → List Nat × Bool × List Char
  | 0, _, s => ([], false, s)
  | count + 1, first, s =>
    let start := if first then some s else sep? ':' s
    match count, start.bind octets? with
    | _ + 1, some (octets, rest) => (groupsOf octets, true, rest)
    | _, _ =>
      match start.bind (number? 16 4 65536 true) with
      | none => ([], false, s)
      | some (g, rest) =>
        let (more, asIpv4, rest) := groups count false rest
        (g :: more, asIpv4, rest)

def groupCount : Nat := 8

def ipv6? (s : List Char) : Option (List Nat × List Char) :=
  let (head, asIpv4, rest) := groups groupCount true s
  if head.length = groupCount then some (head, rest)
  else if asIpv4 then none
  else do
    let rest ← sep? ':' rest
    let rest ← sep? ':' rest
    let (tail, _, rest) := groups (groupCount - (head.length + 1)) true rest
    some (head ++ List.replicate (groupCount - head.length - tail.length) 0 ++ tail, rest)

def port? (s : List Char) : Option Nat :=
  match (sep? ':' s).bind (decimal? 65536) with
  | some (port, []) => some port
  | _ => none

def v4? (s : List Char) : Option Address := do
  let (octets, rest) ← octets? s
  let port ← port? rest
  some ⟨.v4 octets, port⟩

def v6? (s : List Char) : Option Address := do
  let s ← sep? '[' s
  let (groups, rest) ← ipv6? s
  let (scope, rest) ← match rest with
    | '%' :: rest => decimal? (Nat.pow 2 32) rest
    | rest => some (0, rest)
  let rest ← sep? ']' rest
  let port ← port? rest
  some ⟨.v6 groups scope, port⟩

def Address.parse? (s : String) : Option Address := (v4? s.toList).or (v6? s.toList)

def dotted (octets : List Nat) : String := String.intercalate "." (octets.map toString)

def hexText (n : Nat) : String := String.ofList (Nat.toDigits 16 n)

def colons (groups : List Nat) : String := String.intercalate ":" (groups.map hexText)

def zeroRun (groups : List Nat) : Nat := (groups.takeWhile (· = 0)).length

def longestZeros (groups : List Nat) : Nat × Nat :=
  (List.range groups.length).foldl (fun best i =>
    let run := zeroRun (groups.drop i)
    if best.2 < run then (i, run) else best) (0, 0)

-- A run of two zero groups or more is left out.
def shortened (groups : List Nat) : String :=
  let (start, length) := longestZeros groups
  if length < 2 then colons groups
  else colons (groups.take start) ++ "::" ++ colons (groups.drop (start + length))

def ipv6Text (groups : List Nat) : String :=
  match groups with
  | [0, 0, 0, 0, 0, 65535, a, b] => "::ffff:" ++ dotted [a / 256, a % 256, b / 256, b % 256]
  | _ => shortened groups

def Address.text (address : Address) : String :=
  match address.ip with
  | .v4 octets => dotted octets ++ ":" ++ toString address.port
  | .v6 groups scope =>
    let zone := if scope = 0 then "" else "%" ++ toString scope
    "[" ++ ipv6Text groups ++ zone ++ "]:" ++ toString address.port

end ToolGateway.Net
