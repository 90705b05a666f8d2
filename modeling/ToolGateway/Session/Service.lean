import ToolGateway.Session.Basic

namespace ToolGateway

structure Service where
  replies : List LlmReply
  outcomes : List CallResult
  requests : List (List Planner.Message)
  calls : List Action
  audits : List Audit

namespace Service

def fresh (replies : List LlmReply) (outcomes : List CallResult) : Service := ⟨replies, outcomes, [], [], []⟩

-- The reply once the queue is empty: a plan without a tool.
def exhausted : LlmReply :=
  .ok "\x7b\"tool\": null, \"arguments\": \x7b\x7d, \"summary\": \"\", \"confirmation_prompt\": \"\"\x7d"

def nothing : CallResult := .ok (.structured .null)

def takeReply (service : Service) : LlmReply × Service :=
  match service.replies with
  | [] => (exhausted, service)
  | reply :: rest => (reply, {service with replies := rest})

def takeOutcome (service : Service) : CallResult × Service :=
  match service.outcomes with
  | [] => (nothing, service)
  | outcome :: rest => (outcome, {service with outcomes := rest})

def begin (service : Service) (catalog : List Tool) : Session.Call → Service
  | .plan text => {service with requests := service.requests ++ [Planner.request catalog text]}
  | .tool action => {service with calls := service.calls ++ [action]}

def finish (service : Service) : Session.Call → Session.Answer × Service
  | .plan _ => let (reply, next) := service.takeReply; (.reply reply, next)
  | .tool action =>
    let (result, next) := service.takeOutcome
    (.outcome result, {next with audits := next.audits ++ [Audit.ofCall action result]})

-- One execution from begin to end, outside any session.
def execute (service : Service) (action : Action) : CallResult × Service :=
  match (service.begin [] (.tool action)).finish (.tool action) with
  | (.outcome result, next) => (result, next)
  | (.reply _, next) => (nothing, next)

def ask (service : Service) (catalog : List Tool) (text : String) : LlmReply × Service :=
  match (service.begin catalog (.plan text)).finish (.plan text) with
  | (.reply reply, next) => (reply, next)
  | (.outcome _, next) => (exhausted, next)

end Service
end ToolGateway
