import ToolGateway.Config.Settings
import ToolGateway.Text.Blank
import ToolGateway.Text.Search

namespace ToolGateway.Config.Legacy

abbrev Environment := String → Option String

def hostOf (address : List Char) : List Char :=
  match Text.cutLast ':' address with
  | some (host, _) => host
  | none => "0.0.0.0".toList

def withPort (address port : String) : String :=
  String.ofList (hostOf address.toList ++ ':' :: Text.trimChars port.toList)

def originList (value : String) : List String :=
  (((Text.fields ',' value.toList).map Text.trimChars).filter fun field => !field.isEmpty).map String.ofList

def applyUrl (env : Environment) (s : BackendSettings) : BackendSettings :=
  (env "MCP_SERVER_URL").elim s fun url => {s with url := url}

def applyKey (env : Environment) (s : LlmSettings) : LlmSettings :=
  (env "OPENAI_API_KEY").elim s fun key => {s with apiKey := some key}

def applyModel (env : Environment) (s : LlmSettings) : LlmSettings :=
  (env "OPENAI_MODEL").elim s fun model => {s with model := model}

def applyPort (env : Environment) (s : ServerSettings) : ServerSettings :=
  (env "BACKEND_PORT").elim s fun port => {s with bindAddr := withPort s.bindAddr port}

def applyOrigins (env : Environment) (s : ServerSettings) : ServerSettings :=
  (env "ALLOWED_ORIGINS").elim s fun value => {s with allowedOrigins := originList value}

def apply (env : Environment) (s : Settings) : Settings :=
  ⟨applyOrigins env (applyPort env s.server), applyUrl env s.backend, applyModel env (applyKey env s.llm)⟩

end ToolGateway.Config.Legacy
