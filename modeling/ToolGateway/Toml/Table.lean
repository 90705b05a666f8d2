import ToolGateway.Config.Value

namespace ToolGateway.Toml

mutual
inductive Item where
  | value (v : Config.Value)
  | table (t : Table)
  | tables (list : List Table)
inductive Table where
  | mk (implicit dotted : Bool) (entries : List (String × Item))
end

namespace Table

def implicit : Table → Bool
  | .mk implicit _ _ => implicit
def dotted : Table → Bool
  | .mk _ dotted _ => dotted
def entries : Table → List (String × Item)
  | .mk _ _ entries => entries

def fresh : Table := .mk false false []
def passing (dotted : Bool) : Table := .mk true dotted []

def findIn (key : String) : List (String × Item) → Option Item
  | [] => none
  | (k, item) :: rest => if key = k then some item else findIn key rest

def find? (t : Table) (key : String) : Option Item := findIn key t.entries

def putIn (key : String) (item : Item) : List (String × Item) → List (String × Item)
  | [] => [(key, item)]
  | (k, old) :: rest => if key = k then (key, item) :: rest else (k, old) :: putIn key item rest

def put (key : String) (item : Item) : Table → Table
  | .mk implicit dotted entries => .mk implicit dotted (putIn key item entries)

-- Changes the table that a path leads to; `byKey` is the way of a dotted key, else that of a header.
def descend (byKey : Bool) (change : Table → Option Table) : List String → Table → Option Table
  | [], t => change t
  | key :: path, t =>
    match t.find? key with
    | none => (descend byKey change path (passing byKey)).map fun inner => t.put key (.table inner)
    | some (.value _) => none
    | some (.table inner) =>
      if byKey && !inner.implicit then none
      else (descend byKey change path inner).map fun inner => t.put key (.table inner)
    | some (.tables list) =>
      match list.reverse with
      | [] => none
      | last :: before =>
        (descend byKey change path last).map fun last => t.put key (.tables (last :: before).reverse)

-- A dotted key ends in a dotted table, a plain one in the table at hand; no key is given twice.
def assign (t : Table) (path : List String) (key : String) (value : Config.Value) : Option Table :=
  let insert (inner : Table) : Option Table :=
    if inner.dotted = path.isEmpty then none
    else match inner.find? key with
      | some _ => none
      | none => some (inner.put key (.value value))
  descend true insert path t

def define : Table → Table
  | .mk _ _ entries => .mk false false entries

def openTable (fill : Table → Option Table) (key : String) (parent : Table) : Option Table :=
  let found : Option Table := match parent.find? key with
    | none => some fresh
    | some (.table t) => if t.implicit && !t.dotted then some t.define else none
    | some _ => none
  found.bind fun t => (fill t).map fun t => parent.put key (.table t)

def openItem (fill : Table → Option Table) (key : String) (parent : Table) : Option Table :=
  let found : Option (List Table) := match parent.find? key with
    | none => some []
    | some (.tables list) => some list
    | some _ => none
  found.bind fun list => (fill fresh).map fun t => parent.put key (.tables (list ++ [t]))

end Table

mutual
def Item.toValue : Item → Config.Value
  | .value v => v
  | .table t => .table t.toEntries
  | .tables list => .list (tableValues list)
def Table.toEntries : Table → List (String × Config.Value)
  | .mk _ _ entries => entryValues entries
def tableValues : List Table → List Config.Value
  | [] => []
  | t :: rest => .table t.toEntries :: tableValues rest
def entryValues : List (String × Item) → List (String × Config.Value)
  | [] => []
  | (key, item) :: rest => (key, item.toValue) :: entryValues rest
end

end ToolGateway.Toml
