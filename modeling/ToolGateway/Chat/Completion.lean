namespace ToolGateway.Chat

structure Usage where
  prompt : UInt32
  completion : UInt32
  deriving DecidableEq, Repr

structure Completion where
  content : Option String
  usage : Option Usage
  deriving DecidableEq, Repr

structure Refusal where
  kind : Option String
  text : String
  deriving DecidableEq, Repr

-- How the library reads what an answer holds. What it cannot read it words.
structure Decoder where
  completion : ByteArray → Except String Completion
  refusal : ByteArray → Except String Refusal

end ToolGateway.Chat
