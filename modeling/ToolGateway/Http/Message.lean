import ToolGateway.Text.Search

namespace ToolGateway.Http

abbrev Headers := List (String × ByteArray)

structure Request where
  method : String
  target : String
  headers : Headers

structure Response where
  status : Nat
  headers : Headers
  body : String

def Headers.ofTexts (headers : List (String × String)) : Headers :=
  headers.map fun (name, value) => (name, value.toUTF8)

def sameName (a b : String) : Bool := a.toLower == b.toLower

def Headers.find? (headers : Headers) (name : String) : Option ByteArray :=
  (List.find? (fun header => sameName header.1 name) headers).map Prod.snd

def Request.header? (request : Request) (name : String) : Option ByteArray := Headers.find? request.headers name

def inPath (c : Char) : Bool := c != '?' && c != '#'

-- What follows the authority of a whole address; a target that starts with a slash has none.
def afterAuthority (target : List Char) : List Char :=
  match target, Text.cut [':', '/', '/'] target with
  | '/' :: _, _ => target
  | _, some (_, place) =>
    match place.dropWhile fun c => c != '/' && inPath c with
    | '/' :: rest => '/' :: rest
    | rest => '/' :: rest
  | _, none => target

def Request.path (request : Request) : String :=
  String.ofList ((afterAuthority request.target.toList).takeWhile inPath)

end ToolGateway.Http
