import ToolGateway.Http.Cors

namespace ToolGateway.Http

inductive Route where
  | health
  | channel
  | unknown
  deriving DecidableEq, Repr

def Route.ofPath (path : String) : Route :=
  if path = "/health" then .health else if path = "/ws" then .channel else .unknown

inductive HandshakeError where
  | connection
  | upgrade
  | version
  | key
  | notUpgradable
  deriving DecidableEq, Repr

def HandshakeError.status : HandshakeError → Nat
  | .notUpgradable => 426
  | _ => 400

def HandshakeError.message : HandshakeError → String
  | .connection => "Connection header did not include 'upgrade'"
  | .upgrade => "`Upgrade` header did not include 'websocket'"
  | .version => "`Sec-WebSocket-Version` header did not include '13'"
  | .key => "`Sec-WebSocket-Key` header missing"
  | .notUpgradable => "WebSocket request couldn't be upgraded since no upgrade state was present"

-- Bytes that spell no text include no word and equal none.
def includes (value : Option ByteArray) (word : String) : Bool :=
  (value.bind String.fromUTF8?).any fun v => (Text.cut word.toList (v.toList.map Char.toLower)).isSome

def equals (value : Option ByteArray) (word : String) : Bool :=
  (value.bind String.fromUTF8?).any fun v => v.toLower == word

-- A connection that cannot change its protocol is refused last.
def handshake (request : Request) (upgradable : Bool) : Except HandshakeError Unit :=
  if !includes (request.header? "connection") "upgrade" then .error .connection
  else if !equals (request.header? "upgrade") "websocket" then .error .upgrade
  else if !equals (request.header? "sec-websocket-version") "13" then .error .version
  else if (request.header? "sec-websocket-key").isNone then .error .key
  else if upgradable then .ok () else .error .notUpgradable

def plainText : Headers := .ofTexts [("content-type", "text/plain; charset=utf-8")]
def allowGet : Headers := .ofTexts [("allow", "GET,HEAD")]
def document : Headers := .ofTexts [("content-type", "application/json")]

def healthBody : String := "\x7b\"ok\":true\x7d"

def Route.respond (route : Route) (request : Request) (upgradable : Bool) : Response :=
  match route with
  | .unknown => ⟨404, [], ""⟩
  | .health =>
    if request.method = "GET" then ⟨200, document, healthBody⟩
    else if request.method = "HEAD" then ⟨200, document, ""⟩
    else ⟨405, allowGet, ""⟩
  | .channel =>
    if request.method = "GET" then
      match handshake request upgradable with
      | .ok () => ⟨101, [], ""⟩
      | .error e => ⟨e.status, plainText, e.message⟩
    else if request.method = "HEAD" then ⟨405, plainText, ""⟩
    else ⟨405, allowGet, ""⟩

def respond (configured : List String) (request : Request) (upgradable : Bool) : Response :=
  let route := Route.ofPath request.path
  let cors := Cors.ofOrigins configured
  if request.method = "OPTIONS" then
    ⟨200, cors.common request ++ cors.preflight request ++ (if route = .unknown then [] else allowGet), ""⟩
  else
    let response := route.respond request upgradable
    {response with headers := cors.common request ++ response.headers}

-- Answers are given by rules that can be used; a gateway without them does not come up.
def router? (configured : List String) : Except Cors.Fault (Request → Bool → Response) :=
  match (Cors.ofOrigins configured).fault? with
  | some fault => .error fault
  | none => .ok (respond configured)

end ToolGateway.Http
