import ToolGateway.Proofs.Text.LowerCase
import ToolGateway.Reply

namespace ToolGateway.Reply

def SameLetters (s t : List Char) : Prop := s.map Char.toLower = t.map Char.toLower

def Says (words : List String) (s : List Char) : Prop := Text.Ascii s ∧ ∃ word ∈ words, SameLetters s word.toList

section
variable {word : String} {words : List String} {s low : List Char}

end

end ToolGateway.Reply
