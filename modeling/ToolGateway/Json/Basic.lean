import ToolGateway.Decimal.Binary

namespace ToolGateway

-- Whole numbers keep their exact value; every other number is a finite double.
inductive Json where
  | null
  | bool (b : Bool)
  | whole (n : Int)
  | real (x : Decimal.Finite)
  | text (s : String)
  | array (items : List Json)
  | object (members : List (String × Json))
  deriving Inhabited, BEq

namespace Json

abbrev Members := List (String × Json)

-- Keeps the order of keys; a key that is already there takes the new value.
def Members.insert (key : String) (value : Json) : Members → Members
  | [] => [(key, value)]
  | (k, v) :: rest =>
    if key < k then (key, value) :: (k, v) :: rest
    else if key = k then (key, value) :: rest
    else (k, v) :: Members.insert key value rest

def Members.find? (key : String) : Members → Option Json
  | [] => none
  | (k, v) :: rest => if key = k then some v else Members.find? key rest

def Members.ofList (members : List (String × Json)) : Members :=
  members.foldl (fun sorted member => Members.insert member.1 member.2 sorted) []

def record (members : List (String × Json)) : Json := .object (Members.ofList members)

def get? (key : String) : Json → Option Json
  | .object members => Members.find? key members
  | _ => none

def text? : Json → Option String
  | .text s => some s
  | _ => none

def bool? : Json → Option Bool
  | .bool b => some b
  | _ => none

def array? : Json → Option (List Json)
  | .array items => some items
  | _ => none

def object? : Json → Option Members
  | .object members => some members
  | _ => none

def wholeLow : Int := -Int.pow 2 63
def wholeHigh : Int := Int.pow 2 64

def signed? : Json → Option Int
  | .whole n => if n < Int.pow 2 63 then some n else none
  | _ => none

def isNull : Json → Bool
  | .null => true
  | _ => false

def isDocument : Json → Bool
  | .array _ => true
  | .object _ => true
  | _ => false

def textAt (key : String) (v : Json) : Option String := (v.get? key).bind text?

end Json
end ToolGateway
