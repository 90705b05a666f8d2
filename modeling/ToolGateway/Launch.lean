import ToolGateway.Config.Legacy
import ToolGateway.Config.Load
import ToolGateway.Net.Host

namespace ToolGateway.Launch

inductive Failure where
  | settings
  | noKey
  | serving (cause : GatewayError)
  deriving DecidableEq, Repr

-- The variables of a process, each a name and a value joined by an equals sign and ended by a zero.
def environmentOf (block : String) : List (String × String) :=
  (Text.fields '\x00' block.toList).filterMap fun entry =>
    (Text.cut ['='] entry).map fun (name, value) => (String.ofList name, String.ofList value)

def paths (library : Config.Library) : List String :=
  Config.defaultNames.flatMap fun name => name :: library.formats.map fun format => name ++ "." ++ format.1

def settings? (library : Config.Library) (surroundings : Config.Surroundings) : Option Config.Settings :=
  (Config.load? library surroundings none).map
    (Config.Legacy.apply fun name => surroundings.environment.lookup name)

def prepare (library : Config.Library) (surroundings : Config.Surroundings) : Except Failure Config.Settings :=
  match settings? library surroundings with
  | none => .error .settings
  | some s => if s.llm.apiKey.isNone then .error .noKey else .ok s

def run (host : Net.Host) (library : Config.Library) (surroundings : Config.Surroundings) : Except Failure Unit :=
  match prepare library surroundings with
  | .error failure => .error failure
  | .ok s => (host.serve s.server.bindAddr).mapError .serving

-- A wrapped error is shown below the failure, its lines indented.
def indented (text : String) : List String :=
  (Text.fields '\n' text.toList).map fun line => "    " ++ String.ofList line

def Failure.report : Failure → List String
  | .settings => ["Error: Failed to load config"]
  | .noKey => ["Error: OPENAI_API_KEY not set (or llm.api_key in config)"]
  | .serving cause => ["Error: Gateway failed", "", "Caused by:"] ++ indented cause.message

end ToolGateway.Launch
