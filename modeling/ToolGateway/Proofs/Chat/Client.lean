import Mathlib
import ToolGateway.Chat.Client

namespace ToolGateway.Chat

structure Read (client : Client) (answer : Http.Answer) (completion : Completion) : Prop where
  whole : answer.whole = true
  success : Http.Status.isSuccess answer.status = true
  reads : client.decoder.completion answer.bytes = .ok completion

-- One of the attempts is read. After all those before it the service is asked again.
def Reaches (client : Client) (exchanges : List Http.Exchange) (completion : Completion) : Prop :=
  ∃ earlier answer later, exchanges = earlier ++ .answered answer :: later ∧
    (∀ exchange ∈ earlier, client.judge exchange = .again) ∧ Read client answer completion

def Decoded (client : Client) (network : Http.Network) (messages : List Planner.Message) (completion : Completion) : Prop :=
  ∃ post, client.post messages = .ok post ∧ Reaches client (network post) completion

section
variable {client : Client} {network : Http.Network} {messages : List Planner.Message} {completion : Completion}
  {exchange : Http.Exchange} {exchanges : List Http.Exchange} {error : LlmError}

theorem read_judged {answer : Http.Answer} (read : Read client answer completion) :
    client.judge (.answered answer) = .settled (.ok completion) := by
  have healthy : Http.Status.isServerError answer.status = false := by
    have success := read.success
    simp only [Http.Status.isSuccess, Http.Status.isServerError, Bool.and_eq_true, decide_eq_true_eq,
      Bool.and_eq_false_iff, decide_eq_false_iff_not] at success ⊢
    omega
  simp [Client.judge, read.whole, healthy, read.success, read.reads]

theorem judge_cases (client : Client) (exchange : Http.Exchange) :
    client.judge exchange = .again ∨ (∃ message, client.judge exchange = .refused message) ∨
      ∃ answer completion, exchange = .answered answer ∧ Read client answer completion := by
  cases exchange with
  | failed reason => exact .inr (.inl ⟨_, rfl⟩)
  | answered answer =>
    by_cases whole : answer.whole = true
    · by_cases broken : Http.Status.isServerError answer.status = true
      · left
        simp [Client.judge, whole, broken]
      · by_cases success : Http.Status.isSuccess answer.status = true
        · cases reads : client.decoder.completion answer.bytes with
          | ok completion => exact .inr (.inr ⟨answer, completion, rfl, whole, success, reads⟩)
          | error reason => exact .inr (.inl ⟨reason, by simp [Client.judge, whole, broken, success, reads]⟩)
        · cases told : client.decoder.refusal answer.bytes with
          | error reason => exact .inr (.inl ⟨reason, by simp [Client.judge, whole, broken, success, told]⟩)
          | ok refusal =>
            have verdict : client.judge (.answered answer) = refusal.verdict answer.status := by
              simp [Client.judge, whole, broken, success, told]
            rw [verdict, Refusal.verdict]
            split
            · exact .inl rfl
            · exact .inr (.inl ⟨_, rfl⟩)
    · exact .inr (.inl ⟨connectionError answer.defect, by simp [Client.judge, whole]⟩)

theorem judge_ok : client.judge exchange = .settled (.ok completion) ↔
    ∃ answer, exchange = .answered answer ∧ Read client answer completion := by
  constructor
  · intro settled
    rcases judge_cases client exchange with again | ⟨message, refused⟩ | ⟨answer, other, rfl, read⟩
    · cases again.symm.trans settled
    · cases refused.symm.trans settled
    · cases (read_judged read).symm.trans settled
      exact ⟨answer, rfl, read⟩
  · rintro ⟨answer, rfl, read⟩
    exact read_judged read

theorem judge_error (settled : client.judge exchange = .settled (.error error)) : ∃ message, error = .api message := by
  rcases judge_cases client exchange with again | ⟨message, refused⟩ | ⟨answer, completion, rfl, read⟩
  · cases again.symm.trans settled
  · cases refused.symm.trans settled
    exact ⟨message, rfl⟩
  · cases (read_judged read).symm.trans settled

theorem settle_ok : client.settle exchanges = .ok completion ↔ Reaches client exchanges completion := by
  unfold Reaches
  induction exchanges with
  | nil => simp [Client.settle]
  | cons exchange rest ih =>
    cases verdict : client.judge exchange with
    | again =>
      rw [Client.settle, verdict]
      dsimp only
      rw [ih]
      constructor
      · rintro ⟨earlier, answer, later, rfl, again, read⟩
        exact ⟨exchange :: earlier, answer, later, rfl, List.forall_mem_cons.mpr ⟨verdict, again⟩, read⟩
      · rintro ⟨_ | ⟨first, earlier⟩, answer, later, order, again, read⟩
        · cases order
          cases (read_judged read).symm.trans verdict
        · cases order
          exact ⟨earlier, answer, later, rfl, (List.forall_mem_cons.mp again).2, read⟩
    | settled result =>
      rw [Client.settle, verdict]
      dsimp only
      constructor
      · rintro rfl
        obtain ⟨answer, rfl, read⟩ := judge_ok.mp verdict
        exact ⟨[], answer, rest, rfl, by simp, read⟩
      · rintro ⟨_ | ⟨first, earlier⟩, answer, later, order, again, read⟩
        · cases order
          cases (read_judged read).symm.trans verdict
          rfl
        · cases order
          cases (again _ (List.mem_cons_self ..)).symm.trans verdict

theorem settle_error (failed : client.settle exchanges = .error error) :
    error = .timeout client.timeoutSecs ∨ ∃ message, error = .api message := by
  induction exchanges with
  | nil =>
    cases failed
    exact .inl rfl
  | cons exchange rest ih =>
    rw [Client.settle] at failed
    cases verdict : client.judge exchange with
    | again =>
      rw [verdict] at failed
      exact ih failed
    | settled result =>
      rw [verdict] at failed
      obtain rfl : result = .error error := failed
      exact .inr (judge_error verdict)

theorem complete_ok : client.complete network messages = .ok completion ↔ Decoded client network messages completion := by
  rw [Client.complete, Decoded]
  cases posted : client.post messages with
  | error reason => simp
  | ok post => simp [settle_ok]

-- A request that fails is never told to have an answer without content.
theorem complete_error (failed : client.complete network messages = .error error) : error ≠ .emptyResponse := by
  rw [Client.complete] at failed
  cases posted : client.post messages with
  | error reason =>
    rw [posted] at failed
    cases failed
    exact LlmError.noConfusion
  | ok post =>
    rw [posted] at failed
    rcases settle_error failed with rfl | ⟨message, rfl⟩
    · exact LlmError.noConfusion
    · exact LlmError.noConfusion

theorem empty_decoded : replyOf (client.complete network messages) = .error .emptyResponse ↔
    ∃ completion, Decoded client network messages completion ∧ completion.content = none := by
  simp only [← complete_ok]
  cases settled : client.complete network messages with
  | error error => simp [replyOf, complete_error settled]
  | ok completion =>
    cases content : completion.content with
    | none => simp [replyOf, content]
    | some text => simp [replyOf, content]

end

end ToolGateway.Chat
