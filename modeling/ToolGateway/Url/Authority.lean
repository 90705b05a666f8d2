import ToolGateway.Url.Host

namespace ToolGateway.Url

def cutAt (mark : Char) (s : List Char) : List Char × Option (List Char) :=
  match Text.cut [mark] s with
  | some (before, after) => (before, some after)
  | none => (s, none)

def isSlash (fixed : Bool) (c : Char) : Bool := c = '/' || (fixed && c = '\\')

-- An empty secret goes, with its colon.
structure Login where
  user : List Char
  secret : Option (List Char)

def Login.ofChars (s : List Char) : Login :=
  let (user, secret) := cutAt ':' s
  ⟨user, secret.filter fun secret => !secret.isEmpty⟩

def Login.text (login : Login) : String :=
  encode notInLogin login.user ++ behind ":" (login.secret.map (encode notInLogin))

def Login.isReadable (login : Login) : Bool :=
  (decode? login.user).isSome && (!login.user.isEmpty || login.secret.any fun s => (decode? s).isSome)

def Login.kept (login : Login) : Option String :=
  if login.isReadable || login.text = "" then none else some login.text

structure Authority where
  login : Option String
  host : Host
  port : Option Nat

-- A colon inside brackets does not end the host.
def hostEnd (s : List Char) : List Char × List Char :=
  match s with
  | '[' :: _ =>
    let inside := s.takeWhile (· != ']')
    let outside := s.dropWhile (· != ']')
    (inside ++ outside.takeWhile (· != ':'), outside.dropWhile (· != ':'))
  | _ => (s.takeWhile (· != ':'), s.dropWhile (· != ':'))

-- A colon with nothing behind it gives no port, and neither does the scheme's own one.
def port? (scheme : String) : List Char → Option (Option Nat)
  | [] => some none
  | [':'] => some none
  | s => (Net.port? s).map fun port => if ownPort scheme = some port then none else some port

-- The authority at the start of a text, and the path behind it. An empty host has no port and no
-- credentials; a bare at sign counts as such where anything follows it.
def authority? (scheme : String) (isLast : Bool) (s : List Char) : Option (Authority × List Char) := do
  let fixed := hasFixedForm scheme
  let place := s.takeWhile fun c => !isSlash fixed c
  let path := s.dropWhile fun c => !isSlash fixed c
  let (login, place) := match Text.cutLast '@' place with
    | some (login, place) => (some login, place)
    | none => (none, place)
  let (name, rest) := hostEnd place
  let port := rest.takeWhile (· != '\\')
  let path := rest.dropWhile (· != '\\') ++ path
  let written := login.map Login.ofChars
  let isBare := login == some [] && !(isLast && path.isEmpty)
  if name.isEmpty && (isBare || written.any (·.text != "") || !port.isEmpty) then none
  let host ← host? fixed name
  let port ← port? scheme port
  some (⟨written.bind Login.kept, host, port⟩, path)

end ToolGateway.Url
