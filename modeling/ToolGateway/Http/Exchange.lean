import ToolGateway.Http.Message
import ToolGateway.Http.Status
import ToolGateway.Json.Value
import ToolGateway.Url.Reading

namespace ToolGateway.Http

structure Post where
  url : Url
  headers : Headers
  body : String

-- An answer whose connection ended early is not whole.
structure Answer where
  status : Nat
  content : ByteArray
  whole : Bool
  -- The client's words for its status, should that be one of failure.
  refusal : String
  -- The client's words for its content, should that not be readable.
  defect : String

inductive Exchange where
  | failed (reason : String)
  | answered (answer : Answer)

-- What comes back for a request, attempt by attempt, as long as its time lasts.
abbrev Network := Post → List Exchange

def forUrl (what : String) (url : Url) : String := what ++ " for url (" ++ url.text ++ ")"

def unsendable : String := "builder error"
def unsent : String := "error sending request"

def unreached (post : Post) : Exchange := .failed (forUrl unsent post.url)

def Network.isolated : Network := fun post => [unreached post]

-- The only attempt of a request that is not repeated. Without an answer in time it failed.
def Network.once (network : Network) (post : Post) : Exchange := (network post).headD (unreached post)

def target (raw : String) : Except String Url :=
  match Url.parse? raw with
  | none => .error unsendable
  | some url => if url.isRequestable then .ok url else .error (forUrl unsendable url)

-- Some answers have no content, whatever bytes came with them.
def Answer.bytes (answer : Answer) : ByteArray :=
  if Status.bodiless answer.status then .empty else answer.content

def Answer.text? (answer : Answer) : Option String :=
  if Status.bodiless answer.status then some ""
  else if answer.whole then String.fromUTF8? answer.content
  else none

def Answer.document? (answer : Answer) : Option Json := answer.text?.bind Json.parse?

end ToolGateway.Http
