import ToolGateway.Text.Blank
import ToolGateway.Text.LowerCase

namespace ToolGateway

inductive Reply where
  | confirm
  | cancel
  | unclear
  deriving DecidableEq, Repr

namespace Reply

def affirmative : List String := ["y", "yes", "confirm", "ok", "okay", "do it"]
def negative : List String := ["n", "no", "cancel", "stop"]

def normal (text : String) : String := Text.lower (Text.trim text)

def classify (text : String) : Reply :=
  if affirmative.contains (normal text) then .confirm
  else if negative.contains (normal text) then .cancel
  else .unclear

end Reply
end ToolGateway
