import ToolGateway.Text.Blank
import ToolGateway.Text.Digit
import ToolGateway.Text.Search

namespace ToolGateway.Text

structure Span where
  first : Nat
  last : Nat
  deriving DecidableEq, Repr

def Span.covers (span : Span) (code : Nat) : Bool := span.first ≤ code && code ≤ span.last

def covered (spans : List Span) (c : Char) : Bool := spans.any (·.covers c.toNat)

def words (s : String) : List (List Char) :=
  (s.toList.splitBy fun a b => isBlank a == isBlank b).filter fun run => !run.any isBlank

def code (digits : List Char) : Nat := (spelled? 16 digits).getD 0

def span (word : List Char) : Span :=
  match cut ['-'] word with
  | some (first, last) => ⟨code first, code last⟩
  | none => ⟨code word, code word⟩

def spans (table : String) : List Span := (words table).map span

abbrev Form := Nat × List Nat

def formCodes (word : List Char) : List Nat := (fields '+' word).map code

-- The forms of a span; only where there is one code in a form do the next ones follow it.
def spanForms (codes : Span) (form : List Nat) : List Form :=
  (List.range (codes.last + 1 - codes.first)).map fun i => (codes.first + i, form.map (· + i))

def entryForms (next : Nat) (word : List Char) : List Form :=
  match cut ['='] word with
  | some (codes, form) => spanForms (span codes) (formCodes form)
  | none => [(next, formCodes word)]

def addEntry (done : List Form) (word : List Char) : List Form :=
  (entryForms ((done.head?.elim 0 Prod.fst) + 1) word).reverse ++ done

def forms (table : String) : List Form := ((words table).foldl addEntry []).reverse

end ToolGateway.Text
