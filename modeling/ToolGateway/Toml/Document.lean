import ToolGateway.Toml.Scalar
import ToolGateway.Toml.Table

namespace ToolGateway.Toml

-- Values nest at most this deep, and a key has at most this many names.
def depthLimit : Nat := 79

def dropWs (s : List Char) : List Char := s.dropWhile isWs

-- What follows a comment; a control character may not stand in it.
def afterComment? (s : List Char) : Option (List Char) :=
  match s with
  | '#' :: rest =>
    match rest.dropWhile isPlain with
    | [] => some []
    | '\n' :: rest => some ('\n' :: rest)
    | '\r' :: '\n' :: rest => some ('\n' :: rest)
    | _ => none
  | _ => some s

def skipLines? : Nat → List Char → Option (List Char)
  | 0, s => some s
  | count + 1, s =>
    match dropWs s with
    | '\n' :: rest => skipLines? count rest
    | '\r' :: '\n' :: rest => skipLines? count rest
    | '#' :: rest => (afterComment? ('#' :: rest)).bind (skipLines? count)
    | rest => some rest

def endLine? (s : List Char) : Option (List Char) :=
  match afterComment? (dropWs s) with
  | some [] => some []
  | some ('\n' :: rest) => some rest
  | some ('\r' :: '\n' :: rest) => some rest
  | _ => none

def isBareKey (c : Char) : Bool := c.isAlphanum || c = '_' || c = '-'

def simpleKey (s : List Char) : Reading String :=
  let read : Reading (List Char) := match s with
    | '"' :: rest => quoted rest
    | '\'' :: rest => literal rest
    | _ => if (s.takeWhile isBareKey).isEmpty then none
      else some (s.takeWhile isBareKey, s.dropWhile isBareKey)
  read.map fun (chars, rest) => (String.ofList chars, rest)

def key : Nat → List Char → Option (List String × List Char)
  | 0, _ => none
  | count + 1, s => do
    let (name, rest) ← simpleKey (dropWs s)
    match dropWs rest with
    | '.' :: more => do
      let (names, rest) ← key count more
      some (name :: names, rest)
    | rest => some ([name], rest)

def splitKey (names : List String) : Option (List String × String) :=
  match names.reverse with
  | [] => none
  | last :: path => if names.length ≤ depthLimit then some (path.reverse, last) else none

-- The items of a list, after its opening bracket or a comma.
def items (value : List Char → Reading Config.Value) :
    Nat → List Char → Option (List Config.Value × List Char)
  | 0, _ => none
  | count + 1, s => do
    let s ← skipLines? s.length s
    match s with
    | ']' :: rest => some ([], rest)
    | _ => do
      let (v, rest) ← value s
      let rest ← skipLines? rest.length rest
      match rest with
      | ',' :: more => do
        let (vs, rest) ← items value count more
        some (v :: vs, rest)
      | ']' :: rest => some ([v], rest)
      | _ => none

def keyValue (value : List Char → Reading Config.Value) (s : List Char) :
    Option (((List String × String) × Config.Value) × List Char) := do
  let (names, rest) ← key s.length s
  let split ← splitKey names
  match dropWs rest with
  | '=' :: rest => do
    let (v, rest) ← value (dropWs rest)
    some ((split, v), rest)
  | _ => none

-- The entries of an inline table, after its opening brace or a comma; all on one line.
def inlineEntries (value : List Char → Reading Config.Value) :
    Nat → Table → List Char → Option (Table × List Char)
  | 0, _, _ => none
  | count + 1, t, s => do
    let (((path, name), v), rest) ← keyValue value s
    let t ← t.assign path name v
    match dropWs rest with
    | ',' :: more => inlineEntries value count t more
    | '\x7d' :: rest => some (t, rest)
    | _ => none

def inlineTable (value : List Char → Reading Config.Value) (s : List Char) : Reading Config.Value :=
  match dropWs s with
  | '\x7d' :: rest => some (.table [], rest)
  | _ => (inlineEntries value s.length .fresh s).map fun (t, rest) => (.table t.toEntries, rest)

def value : Nat → List Char → Reading Config.Value
  | 0, _ => none
  | depth + 1, s =>
    match text? s with
    | some read => read.map fun (chars, rest) => (.text (String.ofList chars), rest)
    | none =>
      match s with
      | '[' :: rest => (items (value depth) rest.length rest).map fun (vs, rest) => (.list vs, rest)
      | '\x7b' :: rest => inlineTable (value depth) rest
      | _ => scalar? s

inductive Line where
  | blank
  | entry (path : List String) (name : String) (value : Config.Value)
  | header (path : List String) (name : String)
  | item (path : List String) (name : String)

def line? (s : List Char) : Option (Line × List Char) := do
  let s := dropWs s
  let (line, rest) ← match s with
    | '[' :: '[' :: rest => do
      let (names, rest) ← key rest.length rest
      let (path, name) ← splitKey names
      match rest with
      | ']' :: ']' :: rest => some (.item path name, rest)
      | _ => none
    | '[' :: rest => do
      let (names, rest) ← key rest.length rest
      let (path, name) ← splitKey names
      match rest with
      | ']' :: rest => some (.header path name, rest)
      | _ => none
    | c :: _ =>
      if c = '\n' ∨ c = '\r' ∨ c = '#' then some (.blank, s)
      else (keyValue (value depthLimit) s).map fun (((path, name), v), rest) => (.entry path name v, rest)
    | [] => some (Line.blank, s)
  let rest ← endLine? rest
  some (line, rest)

def lines? : Nat → List Char → Option (List Line)
  | _, [] => some []
  | 0, _ => none
  | count + 1, s => do
    let (line, rest) ← line? s
    let lines ← lines? count rest
    some (line :: lines)

-- Where the entries of a section go: the root, a table, or the next of a list of tables.
inductive Place where
  | root
  | table (path : List String) (name : String)
  | item (path : List String) (name : String)

structure Section where
  place : Place
  entries : List ((List String × String) × Config.Value)

-- Lines grouped under the header before them, last section first.
def sections (lines : List Line) : List Section :=
  (lines.foldl (fun (done : List Section) line =>
    match line, done with
    | .blank, _ => done
    | .entry path name v, s :: rest => {s with entries := s.entries ++ [((path, name), v)]} :: rest
    | .entry _ _ _, [] => done
    | .header path name, _ => ⟨.table path name, []⟩ :: done
    | .item path name, _ => ⟨.item path name, []⟩ :: done) [⟨.root, []⟩]).reverse

def fill (entries : List ((List String × String) × Config.Value)) (t : Table) : Option Table :=
  entries.foldlM (fun t entry => t.assign entry.1.1 entry.1.2 entry.2) t

def apply (root : Table) (s : Section) : Option Table :=
  match s.place with
  | .root => fill s.entries root
  | .table path name => root.descend false (Table.openTable (fill s.entries) name) path
  | .item path name => root.descend false (Table.openItem (fill s.entries) name) path

def dropMark (s : List Char) : List Char :=
  match s with
  | c :: rest => if c.toNat = 0xFEFF then rest else s
  | [] => []

def document? (text : String) : Option (List (String × Config.Value)) := do
  let s := dropMark text.toList
  let lines ← lines? (s.length + 1) s
  let root ← (sections lines).foldlM apply .fresh
  some root.toEntries

end ToolGateway.Toml
