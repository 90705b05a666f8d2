import ToolGateway.Chat.Client
import ToolGateway.Rpc
import ToolGateway.Session.Basic

namespace ToolGateway

structure Remote where
  backend : String
  model : Chat.Client

namespace Remote

def ofSettings (home : String) (decoder : Chat.Decoder) (env : String → Option String) (s : Config.Settings) :
    Remote :=
  ⟨s.backend.url, Chat.Client.ofSettings home decoder env s.llm⟩

-- The request of a call, unless its address cannot be sent to. The identity is for the backend's ones.
def request (remote : Remote) (id : String) (catalog : List Tool) : Session.Call → Except String Http.Post
  | .plan text => remote.model.post (Planner.request catalog text)
  | .tool action => (Rpc.invocation action).post remote.backend id

def answer (remote : Remote) (network : Http.Network) (id : String) (catalog : List Tool) :
    Session.Call → Session.Answer
  | .plan text => .reply (Chat.replyOf (remote.model.complete network (Planner.request catalog text)))
  | .tool action => .outcome (Rpc.invoke network remote.backend id action)

def start (remote : Remote) (network : Http.Network) (id : String) :
    Except GatewayError (Session × List Envelope) :=
  Session.start (Rpc.list network remote.backend id)

def handle (remote : Remote) (network : Http.Network) (id : String) (s : Session) (raw : String) :
    Session × List Envelope :=
  let (received, out) := s.receive raw
  match received.call with
  | none => (received, out)
  | some call =>
    let (resumed, more) := received.resume (remote.answer network id s.catalog call)
    (resumed, out ++ more)

end Remote
end ToolGateway
