import ToolGateway.Decimal.Layout
import ToolGateway.Decimal.Reading
import ToolGateway.Text.LowerCase

namespace ToolGateway.Config

inductive Value where
  | nil
  | bool (b : Bool)
  | int (n : Int)
  | float (x : Decimal.Floating)
  | text (s : String)
  | list (items : List Value)
  | table (entries : List (String × Value))
  deriving Inhabited

abbrev Entries := List (String × Value)

def Entries.find? (key : String) : Entries → Option Value
  | [] => none
  | (k, v) :: rest => if key = k then some v else Entries.find? key rest

def Entries.put (key : String) (value : Value) : Entries → Entries
  | [] => [(key, value)]
  | (k, v) :: rest => if key = k then (key, value) :: rest else (k, v) :: Entries.put key value rest

def Entries.collect (given : List (String × Value)) : Entries :=
  given.foldl (fun entries entry => Entries.put entry.1 entry.2 entries) []

namespace Value

def boolText (b : Bool) : String := if b then "true" else "false"

def text? : Value → Option String
  | .text s => some s
  | .bool b => some (boolText b)
  | .int n => some (toString n)
  | .float x => some (String.ofList (x.plainText Decimal.double))
  | _ => none

def switch? (s : String) : Option Bool :=
  let word := Text.lower s
  if ["true", "on", "yes"].contains word then some true
  else if ["false", "off", "no"].contains word then some false
  else none

def unsigned? : Value → Option Nat
  | .int n => if 0 ≤ n then some n.toNat else none
  | .bool b => some b.toNat
  | .float x => some x.toUnsigned
  | .text s =>
    match switch? s with
    | some b => some b.toNat
    | none => Decimal.readUnsigned? s.toList
  | _ => none

def float? : Value → Option Decimal.Floating
  | .float x => some x
  | .int n => some (Decimal.ofInt n)
  | .bool b => some (Decimal.ofInt b.toNat)
  | .text s =>
    match switch? s with
    | some b => some (Decimal.ofInt b.toNat)
    | none => Decimal.readFloating? s.toList
  | _ => none

def list? : Value → Option (List Value)
  | .list items => some items
  | _ => none

end Value
end ToolGateway.Config
