import ToolGateway.Config.Value

namespace ToolGateway.Config

inductive Step where
  | child (name : String)
  | item (index : Int)
  deriving DecidableEq, Repr

structure Path where
  first : String
  steps : List Step
  deriving DecidableEq, Repr

namespace Path

def isNameChar (c : Char) : Bool := c.isAlphanum || c = '_' || c = '-'

def index? (s : List Char) : Option Int :=
  let digits := s.dropWhile fun c => c = ' ' || c = '\t'
  Decimal.readSigned? digits

-- The steps behind the first name; the count bounds them by the length of the text.
def steps? : Nat → List Char → Option (List Step)
  | _, [] => some []
  | 0, _ => none
  | count + 1, '.' :: rest =>
    let name := rest.takeWhile isNameChar
    if name.isEmpty then none
    else (steps? count (rest.dropWhile isNameChar)).map (.child (String.ofList name) :: ·)
  | count + 1, '[' :: rest =>
    match rest.dropWhile (· != ']') with
    | [] => none
    | _ :: after => do
      let index ← index? (rest.takeWhile (· != ']'))
      let steps ← steps? count after
      some (.item index :: steps)
  | _, _ => none

def parse? (key : String) : Option Path :=
  let s := key.toList
  let name := s.takeWhile isNameChar
  if name.isEmpty then none
  else (steps? s.length (s.dropWhile isNameChar)).map fun steps => ⟨String.ofList name, steps⟩

end Path

namespace Value

def entries : Value → Entries
  | .table entries => entries
  | _ => []

def items : Value → List Value
  | .list items => items
  | _ => []

-- Merging a table into a value that is no table starts from an empty one, unless it brings nothing.
mutual
def merge (old : Option Value) : Value → Value
  | .table [] => old.getD (.table [])
  | .table (entry :: rest) => .table (mergeEntries (old.getD Value.nil).entries (entry :: rest))
  | value => value
def mergeEntries (into : Entries) : List (String × Value) → Entries
  | [] => into
  | (key, value) :: rest =>
    let name := Text.lower key
    mergeEntries (Entries.put name (merge (Entries.find? name into) value) into) rest
end

def position (index : Int) (length : Nat) : Nat := (if 0 ≤ index then index else length + index).toNat

def setItem (items : List Value) (place : Nat) (value : Value) : List Value :=
  (items ++ List.replicate (place + 1 - items.length) Value.nil).set place value

-- Sets what lies behind the steps; values in between that are of the wrong kind are replaced.
def setSteps (old : Value) (value : Value) : List Step → Value
  | [] => value
  | [.child name] => .table (mergeEntries old.entries [(name, value)])
  | .child name :: rest =>
    let inner := (Entries.find? name old.entries).getD Value.nil
    .table (Entries.put name (setSteps inner value rest) old.entries)
  | .item index :: rest =>
    let place := position index old.items.length
    .list (setItem old.items place (setSteps ((old.items[place]?).getD Value.nil) value rest))

end Value

def setKey (root : Entries) (key : String) (value : Value) : Entries :=
  match Path.parse? key with
  | none => Value.mergeEntries root [(key, value)]
  | some ⟨first, []⟩ => Value.mergeEntries root [(first, value)]
  | some ⟨first, steps⟩ =>
    Entries.put first (Value.setSteps ((Entries.find? first root).getD Value.nil) value steps) root

def setAll (root : Entries) (source : List (String × Value)) : Entries :=
  source.foldl (fun root entry => setKey root entry.1 entry.2) root

end ToolGateway.Config
