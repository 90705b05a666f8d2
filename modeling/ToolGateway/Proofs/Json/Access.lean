import ToolGateway.Json.Basic

namespace ToolGateway

namespace Json

-- The value that counts for a field with two keys: of the keys that are present, the first.
inductive Members.Given (members : Members) (key other : String) : Json → Prop where
  | named (found : members.find? key = some v) : Given members key other v
  | renamed (absent : members.find? key = none) (found : members.find? other = some v) : Given members key other v

end Json

section
variable {v : Json} {key other t : String} {members : Json.Members}

theorem getD_exact {α : Type} {read : Option α} {given : α → Prop} {fallback a : α}
    (reads : ∀ b, read = some b ↔ given b) : read.getD fallback = a ↔ given a ∨ (∀ b, ¬ given b) ∧ fallback = a := by
  rw [Option.getD_eq_iff, reads, Option.eq_none_iff_forall_ne_some]
  simp only [ne_eq, reads]

theorem text?_exact : v.text? = some t ↔ v = .text t := by
  cases v <;> simp [Json.text?]

theorem object?_exact : v.object? = some members ↔ v = .object members := by
  cases v <;> simp [Json.object?]

theorem textAt_exact : v.textAt key = some t ↔ v.get? key = some (.text t) := by
  simp [Json.textAt, Option.bind_eq_some_iff, text?_exact]

theorem given_exact : (members.find? key).or (members.find? other) = some v ↔ members.Given key other v := by
  rw [Option.or_eq_some_iff]
  constructor
  · rintro (named | ⟨absent, renamed⟩)
    · exact .named named
    · exact .renamed absent renamed
  · intro given
    cases given with
    | named found => exact .inl found
    | renamed absent found => exact .inr ⟨absent, found⟩

end

end ToolGateway
