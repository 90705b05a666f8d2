import ToolGateway.Config.Library
import ToolGateway.Config.Path
import ToolGateway.Config.Settings

namespace ToolGateway.Config

structure Surroundings where
  files : List (String × String)
  environment : List (String × String)

def defaultNames : List String := ["config/default", "../config/default", "default"]

-- The default names are tried by their TOML files, but another file of the name may be the one that is read.
def defaultEntries? (library : Library) (files : List (String × String)) : Option Entries :=
  library.read? ((defaultNames.find? fun name => (files.lookup (name ++ ".toml")).isSome).bind (library.found? files))

def explicitEntries? (library : Library) (files : List (String × String)) : Option String → Option Entries
  | none => some []
  | some path => if (files.lookup path).isSome then library.read? (library.found? files path) else some []

def variableStart : String := "toolchat__"
def separator : String := "__"
def listKey : String := "server.allowed_origins"

def keyOf? (name : String) : Option String :=
  (Text.dropStart? variableStart.toList (Text.lowerChars name.toList)).map fun rest =>
    String.ofList (Text.replace separator.toList ['.'] rest)

-- The value is taken for the first kind it can be read as; only the list of origins is split.
def guess (key value : String) : Value :=
  let chars := value.toList
  let lowered := Text.lower value
  if lowered = "true" then .bool true
  else if lowered = "false" then .bool false
  else match Decimal.readSigned? chars, Decimal.readFloating? chars with
    | some n, _ => .int n
    | none, some x => .float x
    | none, none =>
      if key = listKey then .list ((Text.fields ',' chars).map fun field => .text (String.ofList field))
      else .text value

def entryOf? (entry : String × String) : Option (String × Value) :=
  (keyOf? entry.1).map fun key => (key, guess key entry.2)

def variableEntries (environment : List (String × String)) : Entries :=
  Entries.collect (environment.filterMap entryOf?)

-- All sources merged, lowest first.
def merged? (library : Library) (surroundings : Surroundings) (explicit : Option String) : Option Entries := do
  let first ← defaultEntries? library surroundings.files
  let second ← explicitEntries? library surroundings.files explicit
  some (setAll (setAll (setAll [] (library.arranged .first first)) (library.arranged .named second))
    (library.arranged .environment (variableEntries surroundings.environment)))

-- What was merged is merged once more as one source, so that its keys are taken for paths a second time.
def Library.again (library : Library) (root : Entries) : Entries := setAll [] (library.arranged .merged root)

def load? (library : Library) (surroundings : Surroundings) (explicit : Option String) : Option Settings :=
  (merged? library surroundings explicit).bind fun root => Settings.read? (library.again root)

end ToolGateway.Config
