import ToolGateway.Url.Basic
import ToolGateway.Url.Domain.Name
import ToolGateway.Url.Encoding

namespace ToolGateway.Url

def hostNumber? (s : List Char) : Option Nat :=
  let (base, digits) : Nat × List Char := match s with
    | '0' :: 'x' :: rest => (16, rest)
    | '0' :: 'X' :: rest => (16, rest)
    | '0' :: d :: rest => (8, d :: rest)
    | _ => (10, s)
  Text.spelled? base digits

def dropLastEmpty (parts : List (List Char)) : List (List Char) :=
  if 1 < parts.length ∧ parts.getLast? = some [] then parts.dropLast else parts

def hostParts (name : String) : List (List Char) := dropLastEmpty (Text.fields '.' name.toList)

def endsInNumber (name : String) : Bool :=
  match (hostParts name).getLast? with
  | none => false
  | some part => !part.isEmpty && (part.all Char.isDigit || (hostNumber? part).isSome)

def octetsOf (n : Nat) : List Nat := [n / Nat.pow 2 24 % 256, n / Nat.pow 2 16 % 256, n / 256 % 256, n % 256]

-- The last part fills the octets that the parts before it leave.
def ipv4? (name : String) : Option Host := do
  let parts := hostParts name
  if 4 < parts.length ∨ parts.any List.isEmpty then none
  let numbers ← parts.mapM hostNumber?
  let front := numbers.dropLast
  let last ← numbers.getLast?
  if front.any (fun n => 255 < n) ∨ Nat.pow 256 (4 - front.length) ≤ last then none
  let high := (front.zipIdx).foldl (fun sum part => sum + part.1 * Nat.pow 256 (3 - part.2)) 0
  some (.v4 (octetsOf (high + last)))

def domain? (s : List Char) : Option Host := do
  let given ← decode? s
  let name ← Domain.written? given.toList
  if name = "" then none
  if endsInNumber name then ipv4? name else some (.name name)

def bracketed? (s : List Char) : Option Host :=
  match Net.ipv6? s with
  | some (groups, []) => some (.v6 groups)
  | _ => none

-- Of the control characters a name may have most, though in percent encoding.
def notInHost (c : Char) : Bool := "\x00\t\n\r #/:<>?@[\\]^|".toList.contains c

def plainHost? (s : List Char) : Option Host :=
  if s.any notInHost then none else some (.name (encode notPrintable s))

def host? (fixed : Bool) (s : List Char) : Option Host :=
  match s with
  | '[' :: rest => if rest.getLast? = some ']' then bracketed? rest.dropLast else none
  | _ => if fixed then domain? s else plainHost? s

end ToolGateway.Url
