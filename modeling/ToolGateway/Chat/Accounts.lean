import ToolGateway.Chat.Client

namespace ToolGateway.Chat

def spent : Except LlmError Completion → Option Usage
  | .error _ => none
  | .ok completion => completion.usage

def Usage.increments (usage : Usage) : List TokenUsage.Increment :=
  TokenUsage.increments usage.prompt.toUInt64 usage.completion.toUInt64

def charges (outcome : Except LlmError Completion) : List TokenUsage.Increment :=
  (spent outcome).elim [] Usage.increments

structure Call where
  client : Client
  messages : List Planner.Message
  network : Http.Network

def Call.outcome (call : Call) : Except LlmError Completion := call.client.complete call.network call.messages

inductive Stage where
  | asking
  | charging (owed : List TokenUsage.Increment)

structure Accounts where
  usage : TokenUsage
  calls : List (Call × Stage)

-- One thing that happens: a call begins, its answer comes or fails to, or one counter is added to.
inductive Accounts.Step : Accounts → Accounts → Prop where
  | begins {usage : TokenUsage} {calls : List (Call × Stage)} (call : Call) :
      Step ⟨usage, calls⟩ ⟨usage, calls ++ [(call, .asking)]⟩
  | settles {usage : TokenUsage} {before after : List (Call × Stage)} {call : Call} :
      Step ⟨usage, before ++ (call, .asking) :: after⟩
        ⟨usage, before ++ (call, .charging (charges call.outcome)) :: after⟩
  | adds {usage : TokenUsage} {before after : List (Call × Stage)} {call : Call} {first : TokenUsage.Increment}
      {owed : List TokenUsage.Increment} :
      Step ⟨usage, before ++ (call, .charging (first :: owed)) :: after⟩
        ⟨usage.bump first, before ++ (call, .charging owed) :: after⟩

inductive Accounts.Runs : Accounts → Prop where
  | fresh : Runs ⟨.zero, []⟩
  | step {one two : Accounts} (runs : Runs one) (step : Accounts.Step one two) : Runs two

def Accounts.Finished (accounts : Accounts) : Prop := ∀ call ∈ accounts.calls, call.2 = .charging []

def Accounts.blocks (accounts : Accounts) : List Usage :=
  accounts.calls.filterMap fun call => spent call.1.outcome

end ToolGateway.Chat
