import Mathlib
import ToolGateway.Decimal.Reading
import ToolGateway.Net.Address
import ToolGateway.Proofs.Json.Number

namespace ToolGateway.Net

structure DecimalPort (text : List Char) (port : Nat) : Prop where
  some_ : text ≠ []
  digits : ∀ c ∈ text, c.isDigit = true
  value : Decimal.valueOf text = port
  bound : port ≤ 65535

-- The zone of an address, and the address with its zone up to the closing bracket.
def zone? : List Char → Option (Nat × List Char)
  | '%' :: rest => decimal? (Nat.pow 2 32) rest
  | rest => some (0, rest)

def bracketed? (s : List Char) : Option ((List Nat × Nat) × List Char) :=
  (sep? '[' s).bind fun s => (ipv6? s).bind fun found =>
    (zone? found.2).bind fun zone => some ((found.1, zone.1), zone.2)

inductive HostText : List Char → Ip → Prop where
  | v4 {host : List Char} {octets : List Nat} (reads : octets? host = some (octets, [])) : HostText host (.v4 octets)
  | v6 {inside : List Char} {groups : List Nat} {scope : Nat} (reads : bracketed? inside = some ((groups, scope), [])) :
      HostText (inside ++ [']']) (.v6 groups scope)

theorem zone?_plain {c : Char} (other : '%' ≠ c) (rest : List Char) : zone? (c :: rest) = some (0, c :: rest) := by
  unfold zone?
  split
  · rename_i same
    cases same
    exact absurd rfl other
  · rfl

theorem sep?_exact {c : Char} {s rest : List Char} : sep? c s = some rest ↔ s = c :: rest := by
  cases s with
  | nil => simp [sep?]
  | cons d more =>
    by_cases same : c = d
    · simp [sep?, same]
    · simp [sep?, same, Ne.symm same]

-- The reader ends before the stop as it does at the end of a text, and leaves the end of what it is given.
structure Ends {α : Type} (stop : Char) (read : List Char → Option (α × List Char)) : Prop where
  blind : ∀ front tail, read (front ++ stop :: tail) = (read front).map fun found => (found.1, found.2 ++ stop :: tail)
  behind : ∀ {s a rest}, read s = some (a, rest) → rest <:+ s

namespace Ends

section
variable {α β : Type} {stop c : Char} {read : List Char → Option (α × List Char)}
  {next : α → List Char → Option (β × List Char)}

theorem value (stop : Char) (a : α) : Ends stop fun s => some (a, s) := by
  constructor
  · intro front tail
    rfl
  · intro s b rest found
    cases found
    exact List.suffix_rfl

theorem nothing (stop : Char) : Ends stop fun _ => (none : Option (α × List Char)) := by
  constructor
  · intro front tail
    rfl
  · intro s a rest found
    cases found

theorem bind (first : Ends stop read) (then_ : ∀ a, Ends stop (next a)) :
    Ends stop fun s => (read s).bind fun found => next found.1 found.2 := by
  constructor
  · intro front tail
    rw [first.blind]
    cases read front with
    | none => rfl
    | some found => exact (then_ found.1).blind found.2 tail
  · intro s b rest found
    obtain ⟨⟨a, middle⟩, one, two⟩ := Option.bind_eq_some_iff.mp found
    exact ((then_ a).behind two).trans (first.behind one)

theorem sep (apart : c ≠ stop) (then_ : Ends stop read) : Ends stop fun s => (sep? c s).bind read := by
  constructor
  · intro front tail
    cases front with
    | nil => simp [sep?, apart]
    | cons d rest =>
      by_cases same : c = d
      · simpa [sep?, same] using then_.blind rest tail
      · simp [sep?, same]
  · intro s a rest found
    obtain ⟨middle, one, two⟩ := Option.bind_eq_some_iff.mp found
    rw [sep?_exact.mp one]
    exact (then_.behind two).trans (List.suffix_cons c middle)

theorem split {s tail : List Char} {a : α} (ends : Ends stop read) :
    read s = some (a, stop :: tail) ↔ ∃ front, s = front ++ stop :: tail ∧ read front = some (a, []) := by
  constructor
  · intro reads
    obtain ⟨front, rfl⟩ := ends.behind reads
    refine ⟨front, rfl, ?_⟩
    rw [ends.blind] at reads
    obtain ⟨⟨b, back⟩, alone, same⟩ := Option.map_eq_some_iff.mp reads
    obtain ⟨rfl, left⟩ := Prod.mk.inj same
    have nothing : back = [] := List.append_left_eq_self.mp left
    rw [alone, nothing]
  · rintro ⟨front, rfl, alone⟩
    rw [ends.blind, alone]
    rfl

end

end Ends

theorem takeWhile_stop {p : Char → Bool} {stop : Char} (foreign : p stop = false) (front tail : List Char) :
    (front ++ stop :: tail).takeWhile p = front.takeWhile p := by
  induction front with
  | nil => simp [foreign]
  | cons c rest ih =>
    cases taken : p c with
    | true => simp [taken, ih]
    | false => simp [taken]

namespace Ends

section
variable {stop : Char} {base limit : Nat}

theorem number (foreign : Text.digitIn? base stop = none) (most limit : Nat) (zeros : Bool) :
    Ends stop (number? base most limit zeros) := by
  constructor
  · intro front tail
    have digits : ((front ++ stop :: tail).take most).takeWhile (fun c => (Text.digitIn? base c).isSome) =
        (front.take most).takeWhile fun c => (Text.digitIn? base c).isSome := by
      rw [← List.take_takeWhile, ← List.take_takeWhile, takeWhile_stop (by rw [foreign]; rfl)]
    have within : ((front.take most).takeWhile fun c => (Text.digitIn? base c).isSome).length ≤ front.length :=
      (List.takeWhile_prefix _).length_le.trans (List.length_take_le' most front)
    simp only [number?, digits, List.drop_append_of_le_length within]
    split <;> rfl
  · intro s n rest found
    simp only [number?] at found
    split at found
    · cases found
    · cases found
      exact List.drop_suffix _ s

theorem decimal_most {most : Nat} {s : List Char} (wide : s.length ≤ most) :
    decimal? limit s = number? 10 most limit true s := by
  rw [decimal?, number?, number?, List.take_length, List.take_of_length_le wide]

theorem decimal (foreign : Text.digitIn? 10 stop = none) (limit : Nat) : Ends stop (decimal? limit) := by
  constructor
  · intro front tail
    have shorter : front.length ≤ (front ++ stop :: tail).length := by simp
    rw [decimal_most shorter]
    exact (number foreign _ limit true).blind front tail
  · intro s n rest found
    exact (number foreign _ limit true).behind found

theorem octets (foreign : Text.digitIn? 10 stop = none) (apart : '.' ≠ stop) : Ends stop octets? := by
  have octet : Ends stop (number? 10 3 256 false) := number foreign 3 256 false
  have fourth (a b c : Nat) := octet.bind fun d => value stop [a, b, c, d]
  have third (a b : Nat) := octet.bind fun c => sep apart (fourth a b c)
  have second (a : Nat) := octet.bind fun b => sep apart (third a b)
  have first := octet.bind fun a => sep apart (second a)
  exact first

theorem zone (percent : '%' ≠ stop) (ten : Text.digitIn? 10 stop = none) : Ends stop zone? := by
  constructor
  · intro front tail
    cases front with
    | nil => exact zone?_plain percent tail
    | cons c rest =>
      by_cases same : c = '%'
      · subst same
        exact (decimal ten _).blind rest tail
      · simp [zone?_plain (Ne.symm same)]
  · intro s n rest found
    cases s with
    | nil => exact (value stop 0).behind found
    | cons c more =>
      by_cases same : c = '%'
      · subst same
        exact ((decimal ten _).behind found).trans (List.suffix_cons _ _)
      · rw [zone?_plain (Ne.symm same)] at found
        exact (value stop 0).behind found

theorem begun {α : Type} {read : List Char → Option (α × List Char)} (colon : ':' ≠ stop) (ends : Ends stop read)
    (first : Bool) : Ends stop fun s => (if first then some s else sep? ':' s).bind read := by
  cases first with
  | true => exact ends
  | false => exact sep colon ends

section
variable (hex : Text.digitIn? 16 stop = none) (ten : Text.digitIn? 10 stop = none) (point : '.' ≠ stop)
  (colon : ':' ≠ stop)
include hex ten point colon

theorem groups_blind (count : Nat) (first : Bool) (front tail : List Char) :
    Net.groups count first (front ++ stop :: tail) =
      ((Net.groups count first front).1, (Net.groups count first front).2.1,
        (Net.groups count first front).2.2 ++ stop :: tail) := by
  induction count generalizing first front with
  | zero => rfl
  | succ count ih =>
    have asOctets := (begun colon (octets ten point) first).blind front tail
    have asGroup := (begun colon (number hex 4 65536 true) first).blind front tail
    unfold Net.groups
    simp only [asOctets, asGroup]
    cases (if first then some front else sep? ':' front).bind octets? with
    | some found =>
      cases count with
      | zero =>
        cases (if first then some front else sep? ':' front).bind (number? 16 4 65536 true) with
        | none => rfl
        | some found => simp [ih]
      | succ count => rfl
    | none =>
      cases (if first then some front else sep? ':' front).bind (number? 16 4 65536 true) with
      | none => cases count <;> rfl
      | some found => cases count <;> simp [ih]

theorem groups_behind (count : Nat) (first : Bool) (s : List Char) : (Net.groups count first s).2.2 <:+ s := by
  induction count generalizing first s with
  | zero => exact List.suffix_rfl
  | succ count ih =>
    unfold Net.groups
    dsimp only
    split
    · rename_i asOctets
      exact (begun colon (octets ten point) first).behind asOctets
    · split
      · exact List.suffix_rfl
      · rename_i asGroup
        exact (ih false _).trans ((begun colon (number hex 4 65536 true) first).behind asGroup)

theorem groups (count : Nat) (first : Bool) :
    Ends stop fun s =>
      some (((Net.groups count first s).1, (Net.groups count first s).2.1), (Net.groups count first s).2.2) := by
  constructor
  · intro front tail
    rw [groups_blind hex ten point colon]
    rfl
  · intro s a rest found
    cases found
    exact groups_behind hex ten point colon count first s

theorem ipv6 : Ends stop ipv6? := by
  have behindGap (head : List Nat) : Ends stop fun s =>
      (sep? ':' s).bind fun s => (sep? ':' s).bind fun s =>
        let found := Net.groups (groupCount - (head.length + 1)) true s
        some (head ++ List.replicate (groupCount - head.length - found.1.length) 0 ++ found.1, found.2.2) := by
    have rest := (groups hex ten point colon (groupCount - (head.length + 1)) true).bind fun tail =>
      value stop (head ++ List.replicate (groupCount - head.length - tail.1.length) 0 ++ tail.1)
    exact sep colon (sep colon rest)
  have parted (head : List Nat × Bool) : Ends stop fun s =>
      if head.1.length = groupCount then some (head.1, s)
      else if head.2 then none
      else (sep? ':' s).bind fun s => (sep? ':' s).bind fun s =>
        let found := Net.groups (groupCount - (head.1.length + 1)) true s
        some (head.1 ++ List.replicate (groupCount - head.1.length - found.1.length) 0 ++ found.1, found.2.2) := by
    split
    · exact value stop head.1
    · split
      · exact nothing stop
      · exact behindGap head.1
  have whole := (groups hex ten point colon groupCount true).bind parted
  exact whole

theorem bracketed (percent : '%' ≠ stop) (bracket : '[' ≠ stop) : Ends stop bracketed? := by
  have zoned (groups : List Nat) := (zone percent ten).bind fun scope => value stop (groups, scope)
  have inside := (ipv6 hex ten point colon).bind zoned
  exact sep bracket inside

end

end

end Ends

section
variable {s host digits : List Char} {ip : Ip} {port : Nat}

theorem digitIn?_ten (c : Char) : Text.digitIn? 10 c = if c.isDigit then some (Text.digitValue c) else none := by
  rw [Text.digitIn?]
  split
  · rename_i digit
    have small : Text.digitValue c < 10 := by
      simp only [Char.isDigit, Bool.and_eq_true, decide_eq_true_eq, UInt32.le_iff_toNat_le] at digit
      have most : c.toNat ≤ 57 := digit.2
      have value : Text.digitValue c = c.toNat - 48 := rfl
      omega
    exact if_pos small
  · split
    · exact if_neg (by omega)
    · split
      · exact if_neg (by omega)
      · exact if_neg (Nat.lt_irrefl 10)

theorem spelled?_digits (all : ∀ c ∈ digits, c.isDigit = true) :
    Text.spelled? 10 digits = some (Decimal.valueOf digits) := by
  have from_ (start : Nat) : digits.foldlM (fun n c => (Text.digitIn? 10 c).map fun d => n * 10 + d) start =
      some (digits.foldl (fun n c => n * 10 + Text.digitValue c) start) := by
    induction digits generalizing start with
    | nil => rfl
    | cons c rest ih =>
      have digit : Text.digitIn? 10 c = some (Text.digitValue c) := by
        rw [digitIn?_ten, if_pos (all c List.mem_cons_self)]
      have later := ih fun d present => all d (List.mem_cons_of_mem c present)
      rw [List.foldlM_cons, digit]
      exact later _
  exact from_ 0

theorem digits_taken (s : List Char) :
    (s.take s.length).takeWhile (fun c => (Text.digitIn? 10 c).isSome) = s.takeWhile Char.isDigit := by
  have same : (fun c => (Text.digitIn? 10 c).isSome) = Char.isDigit := by
    funext c
    rw [digitIn?_ten]
    cases c.isDigit <;> rfl
  rw [List.take_length, same]

theorem decimal?_exact {limit n : Nat} : decimal? limit digits = some (n, []) ↔
    digits ≠ [] ∧ (∀ c ∈ digits, c.isDigit = true) ∧ Decimal.valueOf digits = n ∧ n < limit := by
  rw [decimal?, number?]
  simp only [digits_taken, Bool.not_true, Bool.false_and, Bool.or_false]
  constructor
  · intro found
    split at found
    · cases found
    · rename_i fits
      have parts := Prod.mk.inj (Option.some.inj found)
      have whole : digits.takeWhile Char.isDigit = digits :=
        (List.takeWhile_prefix _).eq_of_length_le (List.drop_eq_nil_iff.mp parts.2)
      have all : ∀ c ∈ digits, c.isDigit = true := List.takeWhile_eq_self_iff.mp whole
      rw [whole, spelled?_digits all, Option.getD_some] at fits parts
      simp only [Bool.or_eq_true, List.isEmpty_iff, decide_eq_true_eq, not_or, Nat.not_le] at fits
      exact ⟨fits.1, all, parts.1, parts.1 ▸ fits.2⟩
  · rintro ⟨some_, all, rfl, fits⟩
    have whole : digits.takeWhile Char.isDigit = digits := List.takeWhile_eq_self_iff.mpr all
    rw [whole, spelled?_digits all, Option.getD_some, List.drop_length]
    simp [some_, fits]

theorem port_exact : port? s = some port ↔ ∃ digits, s = ':' :: digits ∧ DecimalPort digits port := by
  have open_ (digits : List Char) : port? (':' :: digits) = some port ↔ decimal? 65536 digits = some (port, []) := by
    simp only [port?, sep?, if_pos, Option.bind_some]
    split
    · rename_i found
      simp [found]
    · rename_i other
      simp only [reduceCtorEq, false_iff]
      intro found
      exact other port found
  constructor
  · intro found
    cases s with
    | nil => cases found
    | cons c digits =>
      by_cases colon : ':' = c
      · subst colon
        obtain ⟨some_, all, value, bound⟩ := decimal?_exact.mp ((open_ digits).mp found)
        exact ⟨digits, rfl, some_, all, value, Nat.le_of_lt_succ bound⟩
      · simp [port?, sep?, colon] at found
  · rintro ⟨digits, rfl, some_, all, value, bound⟩
    exact (open_ digits).mpr (decimal?_exact.mpr ⟨some_, all, value, Nat.lt_succ_of_le bound⟩)

theorem v6?_bracketed (s : List Char) : v6? s = (bracketed? s).bind fun found =>
    (sep? ']' found.2).bind fun rest => (port? rest).bind fun port => some ⟨.v6 found.1.1 found.1.2, port⟩ := by
  rw [v6?, bracketed?, Option.bind_eq_bind]
  cases sep? '[' s with
  | none => rfl
  | some s =>
    rw [Option.bind_some, Option.bind_some, Option.bind_eq_bind]
    cases ipv6? s with
    | none => rfl
    | some found =>
      obtain ⟨groups, rest⟩ := found
      simp only [Option.bind_some, Option.bind_eq_bind, Option.bind_assoc]
      split
      · rfl
      · rename_i plain
        have zone : zone? rest = some (0, rest) := by
          cases rest with
          | nil => rfl
          | cons c more => exact zone?_plain (fun same => plain more (same ▸ rfl)) more
        rw [zone]
        rfl

theorem v4?_exact : v4? s = some ⟨ip, port⟩ ↔
    ∃ octets rest, octets? s = some (octets, rest) ∧ port? rest = some port ∧ .v4 octets = ip := by
  simp [v4?, Option.bind_eq_some_iff]

theorem v6?_exact : v6? s = some ⟨ip, port⟩ ↔
    ∃ groups scope rest, bracketed? s = some ((groups, scope), ']' :: rest) ∧ port? rest = some port ∧
      .v6 groups scope = ip := by
  simp [v6?_bracketed, Option.bind_eq_some_iff, sep?_exact]

theorem octets?_bracketed {found : (List Nat × Nat) × List Char} (reads : bracketed? s = some found) :
    octets? s = none := by
  obtain ⟨inside, opened, -⟩ := Option.bind_eq_some_iff.mp reads
  rw [sep?_exact.mp opened]
  rfl

theorem octets_end : Ends ':' octets? := .octets (by decide) (by decide)

theorem bracketed_end : Ends ']' bracketed? :=
  .bracketed (by decide) (by decide) (by decide) (by decide) (by decide) (by decide)

theorem HostText.plain {octets : List Nat} (named : HostText host (.v4 octets)) (tail : List Char) :
    octets? (host ++ ':' :: tail) = some (octets, ':' :: tail) := by
  cases named with
  | v4 alone => exact octets_end.split.mpr ⟨host, rfl, alone⟩

theorem HostText.zoned {groups : List Nat} {scope : Nat} (named : HostText host (.v6 groups scope))
    (tail : List Char) : bracketed? (host ++ ':' :: tail) = some ((groups, scope), ']' :: ':' :: tail) := by
  cases named with
  | v6 alone =>
    rw [List.append_assoc]
    exact bracketed_end.split.mpr ⟨_, rfl, alone⟩

-- A text tells where the host in front of it ends.
theorem HostText.unique {other tail more : List Char} {ip' : Ip} (named : HostText host ip)
    (again : HostText other ip') (same : host ++ ':' :: tail = other ++ ':' :: more) : ip' = ip ∧ more = tail := by
  cases ip with
  | v4 octets =>
    have one := named.plain tail
    rw [same] at one
    cases ip' with
    | v4 octets' =>
      have two := again.plain more
      rw [one] at two
      cases two
      exact ⟨rfl, rfl⟩
    | v6 groups scope =>
      rw [octets?_bracketed (again.zoned more)] at one
      cases one
  | v6 groups scope =>
    have one := named.zoned tail
    rw [same] at one
    cases ip' with
    | v4 octets =>
      have two := again.plain more
      rw [octets?_bracketed one] at two
      cases two
    | v6 groups' scope' =>
      have two := again.zoned more
      rw [one] at two
      cases two
      exact ⟨rfl, rfl⟩

theorem parse?_exact {s : String} : Address.parse? s = some ⟨ip, port⟩ ↔
    ∃ host digits, s.toList = host ++ ':' :: digits ∧ HostText host ip ∧ DecimalPort digits port := by
  constructor
  · intro parses
    rcases Option.or_eq_some_iff.mp parses with plain | ⟨-, zoned⟩
    · obtain ⟨octets, rest, reads, ported, rfl⟩ := v4?_exact.mp plain
      obtain ⟨digits, rfl, decimal⟩ := port_exact.mp ported
      obtain ⟨host, whole, alone⟩ := octets_end.split.mp reads
      exact ⟨host, digits, whole, .v4 alone, decimal⟩
    · obtain ⟨groups, scope, rest, reads, ported, rfl⟩ := v6?_exact.mp zoned
      obtain ⟨digits, rfl, decimal⟩ := port_exact.mp ported
      obtain ⟨inside, whole, alone⟩ := bracketed_end.split.mp reads
      refine ⟨inside ++ [']'], digits, ?_, .v6 alone, decimal⟩
      rw [whole, List.append_assoc]
      rfl
  · rintro ⟨host, digits, whole, named, decimal⟩
    have ported : port? (':' :: digits) = some port := port_exact.mpr ⟨digits, rfl, decimal⟩
    rw [Address.parse?, whole]
    cases ip with
    | v4 octets =>
      rw [v4?_exact.mpr ⟨octets, _, named.plain digits, ported, rfl⟩]
      rfl
    | v6 groups scope =>
      have zoned := named.zoned digits
      have unread : v4? (host ++ ':' :: digits) = none := by
        rw [v4?, octets?_bracketed zoned]
        rfl
      rw [unread, v6?_exact.mpr ⟨groups, scope, _, zoned, ported, rfl⟩]
      rfl

theorem DecimalPort.unseparated (decimal : DecimalPort digits port) : ':' ∉ digits :=
  fun present => absurd (decimal.digits ':' present) (by decide)

theorem decimalPort_toString (bound : port ≤ 65535) : DecimalPort (toString port).toList port := by
  have text : (toString port).toList = Nat.toDigits 10 port := by simp
  rw [text]
  refine ⟨Nat.toDigits_ne_nil, Json.digits_toDigits port, ?_, bound⟩
  have value := Json.digitsValue_toDigits port
  rwa [Json.digitsValue, List.foldl_map] at value

-- Whatever is put in the place of its port, an address stays that of its host, and is one exactly if it is given a port.
theorem parse?_ported {s : String} {old : Nat} (parses : Address.parse? s = some ⟨ip, old⟩) :
    ∃ host digits, s.toList = host ++ ':' :: digits ∧ ':' ∉ digits ∧ ∀ text address,
      Address.parse? (String.ofList (host ++ ':' :: text)) = some address ↔
        address.ip = ip ∧ DecimalPort text address.port := by
  obtain ⟨host, digits, whole, named, decimal⟩ := parse?_exact.mp parses
  refine ⟨host, digits, whole, decimal.unseparated, ?_⟩
  intro text address
  obtain ⟨ip', port⟩ := address
  rw [parse?_exact, String.toList_ofList]
  constructor
  · rintro ⟨other, text', same, again, decimal'⟩
    obtain ⟨rfl, rfl⟩ := named.unique again same
    exact ⟨rfl, decimal'⟩
  · rintro ⟨rfl, decimal'⟩
    exact ⟨host, text, rfl, named, decimal'⟩

end

end ToolGateway.Net
