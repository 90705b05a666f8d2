import ToolGateway.Text.Digit

namespace ToolGateway.Url

def upperDigit (n : Nat) : Char := (Nat.digitChar n).toUpper

def percentByte (b : UInt8) : List Char := ['%', upperDigit (b.toNat / 16), upperDigit (b.toNat % 16)]

def encodeChar (forbidden : Char → Bool) (c : Char) : List Char :=
  if forbidden c then (String.utf8EncodeChar c).flatMap percentByte else [c]

def encode (forbidden : Char → Bool) (s : List Char) : String :=
  String.ofList (s.flatMap (encodeChar forbidden))

def notPrintable (c : Char) : Bool := c < ' ' || '~' < c

def notInFragment (c : Char) : Bool := notPrintable c || " \"<>\x60".toList.contains c
def notInQuery (c : Char) : Bool := notPrintable c || " \"#<>".toList.contains c
def notInFixedQuery (c : Char) : Bool := notInQuery c || c = '\''
def notInPath (c : Char) : Bool := notInFragment c || "#?\x7b\x7d".toList.contains c
def notInLogin (c : Char) : Bool := notInPath c || "/:;=@[\\]^|".toList.contains c

-- The bytes of a text; a percent sign without two digits stands for itself.
def decodeBytes : List Char → List UInt8
  | [] => []
  | '%' :: a :: b :: rest =>
    match Text.hexDigit? a, Text.hexDigit? b with
    | some a, some b => UInt8.ofNat (a * 16 + b) :: decodeBytes rest
    | _, _ => 0x25 :: decodeBytes (a :: b :: rest)
  | c :: rest => String.utf8EncodeChar c ++ decodeBytes rest

def decode? (s : List Char) : Option String := String.fromUTF8? (decodeBytes s).toByteArray

end ToolGateway.Url
