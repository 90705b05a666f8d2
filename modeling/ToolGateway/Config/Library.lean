import ToolGateway.Config.Value
import ToolGateway.Json.Value
import ToolGateway.Text.Search
import ToolGateway.Toml.Document
namespace ToolGateway.Config

abbrev Reader := String → Option Entries

mutual
def ofJson : Json → Value
  | .null => .nil
  | .bool b => .bool b
  | .whole n => if n < Int.pow 2 63 then .int n else .float (Decimal.ofInt n)
  | .real x => .float (.finite x)
  | .text s => .text s
  | .array items => .list (ofJsonItems items)
  | .object members => .table (ofJsonMembers members)
def ofJsonItems : List Json → List Value
  | [] => []
  | v :: rest => ofJson v :: ofJsonItems rest
def ofJsonMembers : List (String × Json) → Entries
  | [] => []
  | (key, v) :: rest => (key, ofJson v) :: ofJsonMembers rest
end

def json? : Reader := fun text => ((Json.parse? text).bind Json.object?).map ofJsonMembers

-- Entries in another order, and those of the tables among them too.
inductive Rearranged : Entries → Entries → Prop where
  | order {one two : Entries} (same : one.Perm two) : Rearranged one two
  | inside {one two before after : Entries} {key : String} (within : Rearranged one two) :
      Rearranged (before ++ (key, .table one) :: after) (before ++ (key, .table two) :: after)
  | trans {one two three : Entries} (first : Rearranged one two) (second : Rearranged two three) : Rearranged one three

inductive Source where
  | first
  | named
  | environment
  | merged

-- What the library for configurations does that its users do not see: which formats of files it knows, by their
-- extensions and in the order in which they are tried, and in which order it takes the entries of tables.
structure Library where
  formats : List (String × Reader)
  arranged : Source → Entries → Entries
  toml : formats.lookup "toml" = some Toml.document?
  json : formats.lookup "json" = some json?
  bare : formats.lookup "" = none
  unordered : ∀ source entries, Rearranged entries (arranged source entries)

def Library.textual : Library where
  formats := [("toml", Toml.document?), ("json", json?)]
  arranged _ entries := entries
  toml := rfl
  json := rfl
  bare := rfl
  unordered _ _ := .order (.refl _)

def extension (path : String) : String :=
  let name := match Text.cutLast '/' path.toList with
    | some (_, name) => name
    | none => path.toList
  match Text.cutLast '.' name with
  | some (_ :: _, ext) => String.ofList ext
  | _ => ""

def dropMark (text : String) : String := String.ofList (Toml.dropMark text.toList)

-- The file of a name, with its extension: the one of this very name, or the first that a known extension completes.
def Library.found? (library : Library) (files : List (String × String)) (name : String) : Option (String × String) :=
  match files.lookup name with
  | some text => some (extension name, text)
  | none => library.formats.findSome? fun format =>
    (files.lookup (name ++ "." ++ format.1)).map fun text => (format.1, text)

-- A file of no known format counts as empty; a broken one is refused.
def Library.read? (library : Library) : Option (String × String) → Option Entries
  | none => some []
  | some (ext, text) => (library.formats.lookup ext).elim (some []) fun reader => reader (dropMark text)

end ToolGateway.Config
