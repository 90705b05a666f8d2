import ToolGateway.Session.Run

namespace ToolGateway.Socket

inductive Frame where
  | text (s : String)
  | binary (bytes : ByteArray)
  | ping (bytes : ByteArray)
  | pong (bytes : ByteArray)
  | close
  | broken

def Frame.isOpen : Frame → Bool
  | .close => false
  | .broken => false
  | _ => true

def Frame.text? : Frame → Option String
  | .text s => some s
  | .binary bytes => String.fromUTF8? bytes
  | _ => none

def texts (frames : List Frame) : List String := (frames.takeWhile Frame.isOpen).filterMap Frame.text?

structure Closing where
  code : Nat
  reason : String
  deriving DecidableEq, Repr

def noCatalog : Closing := ⟨1011, "tool catalog unavailable"⟩

def visit (listing : Except BackendError (List Json)) (service : Service) (frames : List Frame) :
    Except Closing Session.Run :=
  match Session.Run.start listing service with
  | .error _ => .error noCatalog
  | .ok run => .ok (run.frames .never (texts frames))

theorem fromUTF8?_toUTF8 (s : String) : String.fromUTF8? s.toUTF8 = some s := by
  have valid : s.toUTF8.IsValidUTF8 := s.isValidUTF8
  simp only [String.fromUTF8?, valid, dite_true]
  rfl

theorem text?_binary_toUTF8 (s : String) : (Frame.binary s.toUTF8).text? = (Frame.text s).text? :=
  fromUTF8?_toUTF8 s

end ToolGateway.Socket
