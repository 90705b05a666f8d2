import ToolGateway.Config.Value

namespace ToolGateway.Config

structure ServerSettings where
  bindAddr : String
  allowedOrigins : List String
  deriving DecidableEq, Repr

structure BackendSettings where
  url : String
  requestTimeoutSecs : Nat
  deriving DecidableEq, Repr

structure LlmSettings where
  baseUrl : Option String
  model : String
  apiKey : Option String
  temperature : Decimal.Floating
  requestTimeoutSecs : Nat
  deriving DecidableEq, Repr

structure Settings where
  server : ServerSettings
  backend : BackendSettings
  llm : LlmSettings
  deriving DecidableEq, Repr

def defaultTimeout : Nat := 60

def ServerSettings.default : ServerSettings := ⟨"0.0.0.0:9000", ["http://localhost:5173"]⟩

def BackendSettings.default : BackendSettings := ⟨"http://localhost:8084/mcp", defaultTimeout⟩

def tenth : Decimal.Floating := Decimal.ofMagnitude false (Decimal.nearest Decimal.single 1 1 (-1))

def LlmSettings.default : LlmSettings := ⟨none, "gpt-4o-mini", none, tenth, defaultTimeout⟩

def Settings.default : Settings := ⟨.default, .default, .default⟩

inductive Given where
  | byName (entries : Entries)
  | inOrder (items : List Value)

def given? : Value → Option Given
  | .table entries => some (.byName entries)
  | .list items => some (.inOrder items)
  | _ => none

def Given.field (given : Given) (name : String) (place : Nat) : Option Value :=
  match given with
  | .byName entries => Entries.find? name entries
  | .inOrder items => items[place]?

-- A field that is missing takes its default; one that is there must be readable.
def readOr (default : α) (read : Value → Option α) : Option Value → Option α
  | none => some default
  | some v => read v

def optionalText? : Value → Option (Option String)
  | .nil => some none
  | v => v.text?.map some

def origins? (v : Value) : Option (List String) := v.list?.bind fun items => items.mapM Value.text?

def temperature? (v : Value) : Option Decimal.Floating := v.float?.map (Decimal.Floating.recast Decimal.single)

def ServerSettings.read? (v : Value) : Option ServerSettings := do
  let given ← given? v
  let bindAddr ← readOr ServerSettings.default.bindAddr Value.text? (given.field "bind_addr" 0)
  let allowedOrigins ← readOr ServerSettings.default.allowedOrigins origins? (given.field "allowed_origins" 1)
  some ⟨bindAddr, allowedOrigins⟩

def BackendSettings.read? (v : Value) : Option BackendSettings := do
  let given ← given? v
  let url ← readOr BackendSettings.default.url Value.text? (given.field "url" 0)
  let timeout ← readOr defaultTimeout Value.unsigned? (given.field "request_timeout_secs" 1)
  some ⟨url, timeout⟩

def timeouts? (v : Value) : Option Nat := do
  let given ← given? v
  readOr defaultTimeout Value.unsigned? (given.field "request" 0)

-- Given in order, the two fields that may be absent by name must be there.
def Given.mayLack (given : Given) (place : Nat) : Bool :=
  match given with
  | .byName _ => true
  | .inOrder items => place < items.length

def LlmSettings.read? (v : Value) : Option LlmSettings := do
  let given ← given? v
  if !(given.mayLack 0 && given.mayLack 2) then none
  let baseUrl ← readOr none optionalText? (given.field "base_url" 0)
  let model ← readOr LlmSettings.default.model Value.text? (given.field "model" 1)
  let apiKey ← readOr none optionalText? (given.field "api_key" 2)
  let temperature ← readOr tenth temperature? (given.field "temperature" 3)
  let timeout ← readOr defaultTimeout timeouts? (given.field "timeouts" 4)
  some ⟨baseUrl, model, apiKey, temperature, timeout⟩

def Settings.read? (root : Entries) : Option Settings := do
  let server ← readOr .default ServerSettings.read? (Entries.find? "server" root)
  let backend ← readOr .default BackendSettings.read? (Entries.find? "backend" root)
  let llm ← readOr .default LlmSettings.read? (Entries.find? "llm" root)
  some ⟨server, backend, llm⟩

end ToolGateway.Config
