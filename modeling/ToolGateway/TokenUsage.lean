namespace ToolGateway

structure TokenUsage where
  prompt : UInt64
  completion : UInt64
  total : UInt64
  deriving DecidableEq, Repr

namespace TokenUsage

def zero : TokenUsage := ⟨0, 0, 0⟩

inductive Counter where
  | prompt
  | completion
  | total
  deriving DecidableEq, Repr

structure Increment where
  counter : Counter
  amount : UInt64
  deriving DecidableEq, Repr

def bump (usage : TokenUsage) (step : Increment) : TokenUsage :=
  match step.counter with
  | .prompt => {usage with prompt := usage.prompt + step.amount}
  | .completion => {usage with completion := usage.completion + step.amount}
  | .total => {usage with total := usage.total + step.amount}

def increments (prompt completion : UInt64) : List Increment :=
  [⟨.prompt, prompt⟩, ⟨.completion, completion⟩, ⟨.total, prompt + completion⟩]

def add (usage : TokenUsage) (prompt completion : UInt64) : TokenUsage :=
  (increments prompt completion).foldl bump usage

end TokenUsage
end ToolGateway
