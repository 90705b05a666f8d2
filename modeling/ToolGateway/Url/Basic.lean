import ToolGateway.Net.Address

namespace ToolGateway

inductive Url.Host where
  -- Any name, the empty one included.
  | name (text : String)
  | v4 (octets : List Nat)
  | v6 (groups : List Nat)
  deriving DecidableEq, Repr

inductive Url.Path where
  | segments (names : List String)
  | bare (text : String)
  deriving DecidableEq, Repr

structure Url where
  scheme : String
  login : Option String
  host : Option Url.Host
  port : Option Nat
  path : Url.Path
  query : Option String
  fragment : Option String
  deriving DecidableEq, Repr

namespace Url

def Host.text : Host → String
  | .name text => text
  | .v4 octets => Net.dotted octets
  | .v6 groups => "[" ++ Net.shortened groups ++ "]"

def Path.text : Path → String
  | .segments names => String.join (names.map fun name => "/" ++ name)
  | .bare text => text

def behind (mark : String) (part : Option String) : String := part.elim "" fun text => mark ++ text

def authority (url : Url) : Option String :=
  url.host.map fun host =>
    url.login.elim "" (fun login => login ++ "@") ++ host.text ++ behind ":" (url.port.map toString)

-- A path with an empty start would be read as a host where there is none.
def pathGuard (url : Url) : String :=
  match url.host, url.path with
  | none, .segments ("" :: _ :: _) => "/."
  | _, _ => ""

def text (url : Url) : String :=
  url.scheme ++ ":" ++ behind "//" url.authority ++ url.pathGuard ++ url.path.text ++
    behind "?" url.query ++ behind "#" url.fragment

def fixedForms : List (String × Option Nat) :=
  [("http", some 80), ("https", some 443), ("ws", some 80), ("wss", some 443), ("ftp", some 21), ("file", none)]

def ownPort (scheme : String) : Option Nat := (fixedForms.lookup scheme).join

def hasFixedForm (scheme : String) : Bool := (fixedForms.lookup scheme).isSome

-- Names may hold quotes and braces, but no request has room for them.
def Host.isNamed : Host → Bool
  | .name text => !text.toList.any fun c => "\"\x60\x7b\x7d".toList.contains c
  | _ => true

def longestRequested : Nat := 65534

def isRequestable (url : Url) : Bool :=
  (url.scheme == "http" || url.scheme == "https") && url.host.any Host.isNamed &&
    url.text.utf8ByteSize ≤ longestRequested

end Url
end ToolGateway
