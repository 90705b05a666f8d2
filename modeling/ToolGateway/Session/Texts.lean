namespace ToolGateway.Session.Texts

def greeting : String := "Hi! Tell me what to do. I'll propose an action and ask for confirmation."
def thinking : String := "Thinking…"
def noAction : String := "I couldn't map that to a known action. Try rephrasing."
def executing : String := "Executing…"
def done : String := "✅ Done."
def cancelled : String := "❌ Cancelled. What next?"
def askYesNo : String := "Please reply 'yes' or 'no'."
def invalidMessage : String := "Invalid message. Send JSON: \x7b type: 'user', text: '...' \x7d"
def unsupportedType : String := "Unsupported message type."
def failedMark : String := "❌ "

end ToolGateway.Session.Texts
