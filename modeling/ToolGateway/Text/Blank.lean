namespace ToolGateway.Text

-- The White_Space property, as inclusive ranges of code points.
def blankRanges : List (Nat × Nat) :=
  [(0x09, 0x0D), (0x20, 0x20), (0x85, 0x85), (0xA0, 0xA0), (0x1680, 0x1680), (0x2000, 0x200A),
   (0x2028, 0x2029), (0x202F, 0x202F), (0x205F, 0x205F), (0x3000, 0x3000)]

def isBlank (c : Char) : Bool :=
  blankRanges.any fun range => range.1 ≤ c.toNat && c.toNat ≤ range.2

def trimStart (s : List Char) : List Char := s.dropWhile isBlank

def trimEnd (s : List Char) : List Char := (s.reverse.dropWhile isBlank).reverse

def trimChars (s : List Char) : List Char := trimEnd (trimStart s)

def trim (s : String) : String := String.ofList (trimChars s.toList)

theorem trimStart_append_blank {w : List Char} (blank : ∀ c ∈ w, isBlank c = true) (s : List Char) :
    trimStart (w ++ s) = trimStart s := by
  induction w with
  | nil => rfl
  | cons c r ih =>
    have head := blank c List.mem_cons_self
    have tail := ih fun x hx => blank x (List.mem_cons_of_mem c hx)
    simpa [trimStart, head] using tail

theorem trimEnd_append_blank {w : List Char} (blank : ∀ c ∈ w, isBlank c = true) (s : List Char) :
    trimEnd (s ++ w) = trimEnd s := by
  have reversed : ∀ c ∈ w.reverse, isBlank c = true := fun c hc => blank c (List.mem_reverse.mp hc)
  have start := trimStart_append_blank reversed s.reverse
  simp only [trimStart] at start
  simp [trimEnd, start]

end ToolGateway.Text
