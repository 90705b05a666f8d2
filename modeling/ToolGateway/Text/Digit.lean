namespace ToolGateway.Text

def digitValue (c : Char) : Nat := c.toNat - '0'.toNat

def digitIn? (base : Nat) (c : Char) : Option Nat :=
  let d :=
    if c.isDigit then digitValue c
    else if 'a' ≤ c ∧ c ≤ 'z' then c.toNat - 'a'.toNat + 10
    else if 'A' ≤ c ∧ c ≤ 'Z' then c.toNat - 'A'.toNat + 10
    else base
  if d < base then some d else none

def hexDigit? (c : Char) : Option Nat := digitIn? 16 c

def spelled? (base : Nat) (digits : List Char) : Option Nat :=
  digits.foldlM (fun n c => (digitIn? base c).map fun d => n * base + d) 0

end ToolGateway.Text
