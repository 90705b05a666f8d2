import ToolGateway.Proofs.Floor.Isolation

namespace ToolGateway.Floor

def Act.quiet : Act → Bool
  | .heard _ => true
  | .cut => true
  | .left => true
  | _ => false

-- A seat without a session, with what its client has not collected.
def Vacant (i : Nat) (left : List Envelope) (floor : Floor) : Prop :=
  ∃ seat, floor.seats[i]? = some seat ∧ seat.session = none ∧ (seat.outbox = left ∨ seat.outbox = [])

section
variable {floor next : Floor} {i : Nat} {left : List Envelope}

theorem Vacant.sessionAt (vacant : Vacant i left floor) : floor.sessionAt i = none := by
  obtain ⟨seat, present, gone, _⟩ := vacant
  rw [Floor.sessionAt, present]
  exact gone

theorem Vacant.spared (vacant : Vacant i left floor) (spares : Spares i floor next) : Vacant i left next := by
  rw [Vacant, spares.seat]
  exact vacant

theorem vacant_abandon {seat : Seat} (present : floor.seats[i]? = some seat) :
    Vacant i seat.outbox (floor.abandon i) :=
  ⟨{seat with session := none}, by rw [abandon, seat_onSeat, present]; rfl, rfl, .inl rfl⟩

theorem Vacant.proceed (vacant : Vacant i left floor) : floor.proceed i = floor ∧ floor.proceedActs i = [] := by
  rcases proceed_cases floor i with kept | ⟨session, _, _, _, present, _⟩
  · exact kept
  · cases vacant.sessionAt.symm.trans present

theorem steady_vacant (i : Nat) (left : List Envelope) :
    Steady i fun floor story => Vacant i left floor ∧ ∀ act ∈ story, act.quiet = true := by
  have added {story : List Act} {act : Act} (quiet : act.quiet = true) (before : ∀ act ∈ story, act.quiet = true) :
      ∀ entry ∈ story ++ [act], entry.quiet = true := by
    intro entry there
    rcases List.mem_append.mp there with old | new
    · exact before entry old
    · rw [List.mem_singleton.mp new]
      exact quiet
  refine ⟨?_, ?_, ?_, ?_, ?_, ?_⟩
  · rintro floor next story spares ⟨vacant, quiet⟩
    exact ⟨vacant.spared spares, quiet⟩
  · rintro floor story listing here ⟨⟨seat, present, _⟩, _⟩
    have inside := (List.getElem?_eq_some_iff.mp present).1
    omega
  · rintro floor story raw ⟨vacant, quiet⟩
    obtain ⟨kept, did⟩ := frame_unheard raw (fun _ present => by cases vacant.sessionAt.symm.trans present)
    rw [kept, did]
    exact ⟨vacant, added rfl quiet⟩
  · rintro floor story ⟨⟨seat, present, gone, _⟩, quiet⟩
    refine ⟨⟨{seat with connected := false, outbox := []}, ?_, gone, .inr rfl⟩, added rfl quiet⟩
    rw [Floor.step, seat_onSeat, present]
    rfl
  · rintro floor story ⟨⟨seat, present, _, out⟩, quiet⟩
    refine ⟨⟨{seat with session := none}, ?_, rfl, out⟩, added rfl quiet⟩
    rw [abandon, seat_onSeat, present]
    rfl
  · rintro floor story ⟨vacant, quiet⟩
    obtain ⟨kept, did⟩ := vacant.proceed
    rw [kept, did, List.append_nil]
    exact ⟨vacant, quiet⟩

theorem Vacant.run (vacant : Vacant i left floor) (events : List Event) :
    Vacant i left (floor.run events) ∧ ∀ act ∈ own i (floor.journal events), act.quiet = true := by
  have nothing : ∀ act ∈ ([] : List Act), act.quiet = true := by simp
  exact (steady_vacant i left).run ⟨vacant, nothing⟩ events

end

end ToolGateway.Floor
