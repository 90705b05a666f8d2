import ToolGateway.Http.Message

namespace ToolGateway.Http

def star : String := "*"

def isHeaderByte (b : UInt8) : Bool := b = 9 || (32 ≤ b && b != 127)

def isHeaderValue (s : String) : Bool := s.toUTF8.data.all isHeaderByte

-- What is allowed to a request: always the same, what it asks for if that is listed, or whatever it asks for.
inductive Rule where
  | fixed (value : String)
  | listed (values : List String)
  | echoed
  deriving DecidableEq, Repr

namespace Rule

def admits (rule : Rule) (asked : ByteArray) : Bool :=
  match rule with
  | listed values => values.any fun value => value.toUTF8.data = asked.data
  | fixed _ | echoed => true

def answer (rule : Rule) (asked : Option ByteArray) : Option ByteArray :=
  match rule with
  | fixed value => some value.toUTF8
  | listed _ | echoed => asked.filter rule.admits

def isStar : Rule → Bool
  | fixed value => value == star
  | listed _ | echoed => false

def listsStar : Rule → Bool
  | listed values => values.contains star
  | fixed _ | echoed => false

def ofOrigins (configured : List String) : Rule :=
  if configured.contains star then echoed else listed (configured.filter isHeaderValue)

end Rule

structure Cors where
  origins : Rule
  methods : Rule
  headers : Rule
  credentials : Bool
  deriving DecidableEq, Repr

namespace Cors

inductive Fault where
  | starListed
  | starWithCredentials
  deriving DecidableEq, Repr

def fault? (cors : Cors) : Option Fault :=
  if cors.origins.listsStar then some .starListed
  else if cors.credentials && (cors.origins.isStar || cors.methods.isStar || cors.headers.isStar) then
    some .starWithCredentials
  else none

def ofOrigins (configured : List String) : Cors := ⟨.ofOrigins configured, .echoed, .echoed, true⟩

def requestMethod : String := "access-control-request-method"
def requestHeaders : String := "access-control-request-headers"
def allowOrigin : String := "access-control-allow-origin"

def given (name : String) (value : Option ByteArray) : Headers := (value.map fun v => (name, v)).toList

def common (cors : Cors) (request : Request) : Headers :=
  (if cors.credentials then Headers.ofTexts [("access-control-allow-credentials", "true")] else []) ++
  Headers.ofTexts [("vary", "origin, " ++ requestMethod ++ ", " ++ requestHeaders)] ++
  given allowOrigin (cors.origins.answer (request.header? "origin"))

def preflight (cors : Cors) (request : Request) : Headers :=
  given "access-control-allow-methods" (cors.methods.answer (request.header? requestMethod)) ++
  given "access-control-allow-headers" (cors.headers.answer (request.header? requestHeaders))

end Cors
end ToolGateway.Http
