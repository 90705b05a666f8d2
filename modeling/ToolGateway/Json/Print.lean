import ToolGateway.Json.Basic
import ToolGateway.Decimal.Layout

namespace ToolGateway.Json

-- Real numbers are positional from 0.00001 up to sixteen digits before the point.
def realLayout : Decimal.Layout := ⟨some (-4, 16), true, .even⟩

def hexDigit (n : Nat) : Char := Nat.digitChar n

def escapeChar (c : Char) : List Char :=
  if c = '"' then ['\\', '"']
  else if c = '\\' then ['\\', '\\']
  else if c = '\x08' then ['\\', 'b']
  else if c = '\x0c' then ['\\', 'f']
  else if c = '\n' then ['\\', 'n']
  else if c = '\r' then ['\\', 'r']
  else if c = '\t' then ['\\', 't']
  else if c < ' ' then ['\\', 'u', '0', '0', hexDigit (c.toNat / 16), hexDigit (c.toNat % 16)]
  else [c]

def quoteChars (s : List Char) : List Char := '"' :: (s.flatMap escapeChar ++ ['"'])

def quote (s : String) : List Char := quoteChars s.toList

def wholeChars (n : Int) : List Char :=
  if n < 0 then '-' :: Nat.toDigits 10 n.natAbs else Nat.toDigits 10 n.natAbs

mutual
def render : Json → List Char
  | .null => ['n', 'u', 'l', 'l']
  | .bool true => ['t', 'r', 'u', 'e']
  | .bool false => ['f', 'a', 'l', 's', 'e']
  | .whole n => wholeChars n
  | .real x => Decimal.finiteText Decimal.double realLayout x
  | .text s => quote s
  | .array items => '[' :: (renderItems items ++ [']'])
  | .object members => '\x7b' :: (renderMembers members ++ ['\x7d'])
def renderItems : List Json → List Char
  | [] => []
  | [v] => render v
  | v :: rest => render v ++ ',' :: renderItems rest
def renderMembers : List (String × Json) → List Char
  | [] => []
  | [(key, v)] => quote key ++ ':' :: render v
  | (key, v) :: rest => quote key ++ ':' :: (render v ++ ',' :: renderMembers rest)
end

def compact (v : Json) : String := String.ofList v.render

def newline (depth : Nat) : List Char := '\n' :: List.replicate (2 * depth) ' '

mutual
def prettyAt (depth : Nat) : Json → List Char
  | .array [] => ['[', ']']
  | .array items => '[' :: (prettyItems (depth + 1) items ++ newline depth ++ [']'])
  | .object [] => ['\x7b', '\x7d']
  | .object members => '\x7b' :: (prettyMembers (depth + 1) members ++ newline depth ++ ['\x7d'])
  | v => render v
def prettyItems (depth : Nat) : List Json → List Char
  | [] => []
  | [v] => newline depth ++ prettyAt depth v
  | v :: rest => newline depth ++ prettyAt depth v ++ ',' :: prettyItems depth rest
def prettyMembers (depth : Nat) : List (String × Json) → List Char
  | [] => []
  | [(key, v)] => newline depth ++ quote key ++ ':' :: ' ' :: prettyAt depth v
  | (key, v) :: rest =>
    newline depth ++ quote key ++ ':' :: ' ' :: (prettyAt depth v ++ ',' :: prettyMembers depth rest)
end

def pretty (v : Json) : String := String.ofList (prettyAt 0 v)

end ToolGateway.Json
