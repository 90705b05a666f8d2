import ToolGateway.Proofs.Floor.Isolation

namespace ToolGateway

inductive Dealing (α : Type) where
  | queued (a : α)
  | given (a : α)

-- A queue gives out its elements in their order, and a spare one whenever it is empty.
inductive Dealt {α : Type} (spare : α) : List α → List (Dealing α) → List α → Prop where
  | done {queue : List α} : Dealt spare queue [] queue
  | queued {queue left : List α} {a : α} {log : List (Dealing α)} (rest : Dealt spare (queue ++ [a]) log left) :
      Dealt spare queue (.queued a :: log) left
  | next {queue left : List α} {a : α} {log : List (Dealing α)} (rest : Dealt spare queue log left) :
      Dealt spare (a :: queue) (.given a :: log) left
  | spare {left : List α} {log : List (Dealing α)} (rest : Dealt spare [] log left) :
      Dealt spare [] (.given spare :: log) left

section
variable {α : Type} {spare a : α} {queue between left given : List α} {one two : List (Dealing α)}

theorem Dealt.append (first : Dealt spare queue one between) (second : Dealt spare between two left) :
    Dealt spare queue (one ++ two) left := by
  induction first with
  | done => exact second
  | queued _ ih => exact .queued (ih second)
  | next _ ih => exact .next (ih second)
  | spare _ ih => exact .spare (ih second)

-- Where nothing joins the queue, what is given out k-th is what stood there k-th.
theorem Dealt.given_exact (dealt : Dealt spare queue (given.map .given) left) :
    (∀ (k : Nat) (a : α), given[k]? = some a → a = queue[k]?.getD spare) ∧ left = queue.drop given.length := by
  induction given generalizing queue with
  | nil =>
    cases dealt
    refine ⟨?_, rfl⟩
    intro k a there
    cases there
  | cons first rest ih =>
    rw [List.map_cons] at dealt
    cases dealt with
    | next dealt =>
      obtain ⟨later, ends⟩ := ih dealt
      refine ⟨?_, ends⟩
      intro k a there
      cases k with
      | zero =>
        cases there
        rfl
      | succ k => exact later k a there
    | spare dealt =>
      obtain ⟨later, ends⟩ := ih dealt
      rw [List.drop_nil] at ends ⊢
      refine ⟨?_, ends⟩
      intro k a there
      cases k with
      | zero =>
        cases there
        rfl
      | succ k => exact later k a there

end

namespace Floor

def Move.queued : Move → List LlmReply
  | .push reply => [reply]
  | _ => []

def dealings : Floor → List Move → List (Dealing LlmReply)
  | _, [] => []
  | floor, next :: rest => next.queued.map .queued ++
      (((floor.moveActs next).map Prod.snd).filterMap Act.reply?).map .given ++ (floor.move next).dealings rest

def Move.added : Move → Nat
  | .add count => count
  | _ => 0

def permitsAdded : List Move → Nat
  | [] => 0
  | next :: rest => next.added + permitsAdded rest

structure Served (before after : Service) (acts : List Act) : Prop where
  replies : Dealt Service.exhausted before.replies ((acts.filterMap Act.reply?).map .given) after.replies
  outcomes : Dealt Service.nothing before.outcomes ((acts.filterMap Act.outcome?).map .given) after.outcomes

section
variable {one two three : Service} {acts more : List Act}

theorem Served.trans (first : Served one two acts) (second : Served two three more) :
    Served one three (acts ++ more) := by
  constructor
  · rw [List.filterMap_append, List.map_append]
    exact first.replies.append second.replies
  · rw [List.filterMap_append, List.map_append]
    exact first.outcomes.append second.outcomes

theorem served_quiet (replies : two.replies = one.replies) (outcomes : two.outcomes = one.outcomes)
    (quiet : ∀ act ∈ acts, act.reply? = none ∧ act.outcome? = none) : Served one two acts := by
  have first : acts.filterMap Act.reply? = [] := List.filterMap_eq_nil_iff.mpr fun act there => (quiet act there).1
  have second : acts.filterMap Act.outcome? = [] := List.filterMap_eq_nil_iff.mpr fun act there => (quiet act there).2
  constructor
  · rw [first, replies]
    exact .done
  · rw [second, outcomes]
    exact .done

theorem served_sent (service : Service) (out : List Envelope) : Served service service (out.map .sent) := by
  apply served_quiet rfl rfl
  intro act present
  obtain ⟨_, _, rfl⟩ := List.mem_map.mp present
  exact ⟨rfl, rfl⟩

theorem served_one (service : Service) {act : Act} (quiet : act.reply? = none ∧ act.outcome? = none) :
    Served service service [act] := by
  apply served_quiet rfl rfl
  intro other present
  rwa [List.mem_singleton.mp present]

theorem served_begin (service : Service) (catalog : List Tool) (call : Session.Call) :
    Served service (service.begin catalog call) [.begun catalog call] := by
  apply served_quiet
  · cases call <;> rfl
  · cases call <;> rfl
  · intro act present
    rw [List.mem_singleton.mp present]
    cases call <;> exact ⟨rfl, rfl⟩

theorem served_end (service : Service) (call : Session.Call) :
    Served service (service.finish call).2 [.ended service call] := by
  obtain ⟨replies, outcomes, requests, calls, audits⟩ := service
  cases call with
  | plan text =>
    cases replies with
    | nil => exact ⟨.spare .done, .done⟩
    | cons reply rest => exact ⟨.next .done, .done⟩
  | tool action =>
    cases outcomes with
    | nil => exact ⟨.done, .spare .done⟩
    | cons outcome rest => exact ⟨.done, .next .done⟩

variable (floor : Floor) (i : Nat) (session : Session) (call : Session.Call)

theorem finish_served :
    Served floor.service (floor.finish i session call).service (finishActs floor.service session call) :=
  (served_end floor.service call).trans (served_sent _ _)

theorem begin_served :
    Served floor.service (floor.begin i session call).service (floor.beginActs i session call) := by
  have first := served_begin floor.service session.catalog call
  obtain ⟨line, _, ⟨begun, did⟩ | ⟨begun, did⟩⟩ := begin_cases floor i session call
  · rw [begun, did]
    exact first.trans (finish_served ⟨_, _, _⟩ i session call)
  · rw [begun, did]
    exact first

theorem frame_served (raw : String) : Served floor.service (floor.frame i raw).service (floor.frameActs i raw) := by
  have heard : Served floor.service floor.service [.heard raw] := served_one _ ⟨rfl, rfl⟩
  rcases frame_cases floor i raw with
    ⟨_, kept, did⟩ | ⟨session, _, _, ⟨_, settled, did⟩ | ⟨call, _, begun, did⟩⟩
  · rw [kept, did]
    exact heard
  · rw [settled, did]
    exact heard.trans (served_sent _ (session.receive raw).2)
  · rw [begun, did]
    have out := heard.trans (served_sent _ (session.receive raw).2)
    exact out.trans (begin_served (floor.put i (session.receive raw)) i (session.receive raw).1 call)

theorem proceed_served : Served floor.service (floor.proceed i).service (floor.proceedActs i) := by
  rcases proceed_cases floor i with ⟨kept, did⟩ | ⟨session, call, gate, rest, _, _, _, _, ended, did⟩
  · rw [kept, did]
    exact served_sent _ []
  · rw [ended, did]
    exact finish_served {floor with gate := some rest} i session call

theorem start_served (listing : Except BackendError (List Json)) :
    Served floor.service (floor.start listing).service (startActs listing) := by
  have opened : Served floor.service floor.service [.opened listing] := served_one _ ⟨rfl, rfl⟩
  unfold start startActs
  cases Session.start listing with
  | error e => exact opened
  | ok started => exact opened.trans (served_sent _ _)

end

section
variable (floor : Floor)

theorem move_served (next : Move) (unqueued : next.queued = []) :
    Served floor.service (floor.move next).service ((floor.moveActs next).map Prod.snd) := by
  cases next with
  | start listing => rw [moveActs, untagged]; exact start_served floor listing
  | frame i raw => rw [moveActs, untagged]; exact frame_served floor i raw
  | push reply => cases unqueued
  | disconnect i => exact served_one _ ⟨rfl, rfl⟩
  | abandon i => exact served_one _ ⟨rfl, rfl⟩
  | add count => exact served_sent _ []
  | proceed i => rw [moveActs, untagged]; exact proceed_served floor i

theorem move_dealt (next : Move) :
    Dealt Service.exhausted floor.service.replies
      (next.queued.map .queued ++ (((floor.moveActs next).map Prod.snd).filterMap Act.reply?).map .given)
      (floor.move next).service.replies := by
  cases next with
  | push reply => exact .queued .done
  | _ => exact (move_served floor _ rfl).replies

theorem move_outcomes (next : Move) :
    Dealt Service.nothing floor.service.outcomes
      ((((floor.moveActs next).map Prod.snd).filterMap Act.outcome?).map .given)
      (floor.move next).service.outcomes := by
  cases next with
  | push reply => exact .done
  | _ => exact (move_served floor _ rfl).outcomes

theorem follow_dealt (moves : List Move) :
    Dealt Service.exhausted floor.service.replies (floor.dealings moves) (floor.follow moves).service.replies := by
  induction moves generalizing floor with
  | nil => exact .done
  | cons next rest ih => exact (move_dealt floor next).append (ih (floor.move next))

theorem follow_outcomes (moves : List Move) :
    Dealt Service.nothing floor.service.outcomes
      ((((floor.record moves).map Prod.snd).filterMap Act.outcome?).map .given)
      (floor.follow moves).service.outcomes := by
  induction moves generalizing floor with
  | nil => exact .done
  | cons next rest ih =>
    rw [record, List.map_append, List.filterMap_append, List.map_append]
    exact (move_outcomes floor next).append (ih (floor.move next))

theorem dealings_unqueued (moves : List Move) (unqueued : ∀ next ∈ moves, next.queued = []) :
    floor.dealings moves = (((floor.record moves).map Prod.snd).filterMap Act.reply?).map .given := by
  induction moves generalizing floor with
  | nil => rfl
  | cons next rest ih =>
    obtain ⟨first, later⟩ := List.forall_mem_cons.mp unqueued
    rw [dealings, record, first, ih (floor.move next) later, List.map_append, List.filterMap_append, List.map_append]
    rfl

end

end Floor
end ToolGateway
