import ToolGateway.Url.Path

namespace ToolGateway.Url

def isOuterBlank (c : Char) : Bool := c ≤ ' '
def isLineBreak (c : Char) : Bool := c = '\t' || c = '\n' || c = '\r'

def clean (s : List Char) : List Char :=
  (((s.dropWhile isOuterBlank).reverse.dropWhile isOuterBlank).reverse).filter fun c => !isLineBreak c

def isSchemeChar (c : Char) : Bool := c.isAlphanum || c = '+' || c = '-' || c = '.'

def scheme? (s : List Char) : Option (String × List Char) :=
  let name := s.takeWhile isSchemeChar
  match s.dropWhile isSchemeChar with
  | ':' :: rest => if name.head?.any Char.isAlpha then some ((String.ofList name).toLower, rest) else none
  | _ => none

structure Place where
  authority : Option Authority
  path : Path

def localhost : Authority := ⟨none, .name "", none⟩

def localFile (s : List Char) : Place := ⟨some localhost, filePath (resolve true [] (segments true s))⟩

-- A file's host may not be given, and is not kept where its path starts with a drive.
def file? (s : List Char) : Option Place :=
  match s with
  | a :: b :: rest =>
    if !(isSlash true a && isSlash true b) then some (localFile (dropSlash true s))
    else
      let name := rest.takeWhile fun c => !isSlash true c
      let path := rest.dropWhile fun c => !isSlash true c
      if isDrive name then some (localFile rest)
      else if name.isEmpty then some (localFile path)
      else (host? true name).map fun host =>
        if host = .name "localhost" then localFile path
        else
          let names := resolve true [] (segments true (dropSlash true path))
          let host := if names.head?.any fun name => isDrive name.toList then .name "" else host
          ⟨some ⟨none, host, none⟩, filePath names⟩
  | _ => some (localFile (dropSlash true s))

def place? (scheme : String) (isLast : Bool) (s : List Char) : Option Place :=
  let fixed := hasFixedForm scheme
  let within (rest : List Char) : Option Place :=
    (authority? scheme isLast rest).map fun (authority, path) => ⟨some authority, pathOf fixed path⟩
  if scheme = "file" then file? s
  else if fixed then within (s.dropWhile (isSlash true))
  else match s with
    | '/' :: '/' :: rest => within rest
    | '/' :: _ => some ⟨none, pathOf false s⟩
    | _ => some ⟨none, .bare (encode notPrintable s)⟩

def parse? (raw : String) : Option Url := do
  let (scheme, rest) ← scheme? (clean raw.toList)
  let (front, fragment) := cutAt '#' rest
  let (front, query) := cutAt '?' front
  let place ← place? scheme (query.isNone && fragment.isNone) front
  let notInThisQuery := if hasFixedForm scheme then notInFixedQuery else notInQuery
  some {
    scheme
    login := place.authority.bind Authority.login
    host := place.authority.map Authority.host
    port := place.authority.bind Authority.port
    path := place.path
    query := query.map (encode notInThisQuery)
    fragment := fragment.map (encode notInFragment) }

end ToolGateway.Url
