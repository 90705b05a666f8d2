import Mathlib
import ToolGateway.Chat.Accounts
import ToolGateway.Proofs.Chat.Client

namespace ToolGateway

namespace TokenUsage

variable {usage other : TokenUsage}

def value (usage : TokenUsage) : Counter → UInt64
  | .prompt => usage.prompt
  | .completion => usage.completion
  | .total => usage.total

def Increment.toward (step : Increment) (counter : Counter) : Nat :=
  if step.counter = counter then step.amount.toNat else 0

def worth (steps : List Increment) (counter : Counter) : Nat := (steps.map (·.toward counter)).sum

theorem same_values (same : ∀ counter, (usage.value counter).toNat = (other.value counter).toNat) : usage = other := by
  obtain ⟨prompt, completion, total⟩ := usage
  obtain rfl : prompt = other.prompt := UInt64.toNat_inj.mp (same .prompt)
  obtain rfl : completion = other.completion := UInt64.toNat_inj.mp (same .completion)
  obtain rfl : total = other.total := UInt64.toNat_inj.mp (same .total)
  rfl

theorem bump_value (usage : TokenUsage) (step : Increment) (counter : Counter) :
    ((usage.bump step).value counter).toNat = ((usage.value counter).toNat + step.toward counter) % 2 ^ 64 := by
  have kept (n : UInt64) : n.toNat = (n.toNat + 0) % 2 ^ 64 := (Nat.mod_eq_of_lt n.toNat_lt).symm
  obtain ⟨own, amount⟩ := step
  by_cases same : own = counter
  · subst same
    rw [Increment.toward, if_pos rfl]
    cases own <;> exact UInt64.toNat_add ..
  · rw [Increment.toward, if_neg same, ← kept]
    cases own with
    | prompt =>
      cases counter with
      | prompt => exact absurd rfl same
      | completion | total => rfl
    | completion =>
      cases counter with
      | completion => exact absurd rfl same
      | prompt | total => rfl
    | total =>
      cases counter with
      | total => exact absurd rfl same
      | prompt | completion => rfl

theorem worth_cons (step : Increment) (steps : List Increment) (counter : Counter) :
    worth (step :: steps) counter = step.toward counter + worth steps counter := rfl

theorem bumps_value (usage : TokenUsage) (steps : List Increment) (counter : Counter) :
    ((steps.foldl bump usage).value counter).toNat = ((usage.value counter).toNat + worth steps counter) % 2 ^ 64 := by
  induction steps generalizing usage with
  | nil => exact (Nat.mod_eq_of_lt (UInt64.toNat_lt _)).symm
  | cons step rest ih =>
    rw [List.foldl_cons, ih, bump_value, worth_cons, Nat.mod_add_mod, Nat.add_assoc]

end TokenUsage

namespace Chat

def Usage.amount (usage : Usage) : TokenUsage.Counter → Nat
  | .prompt => usage.prompt.toNat
  | .completion => usage.completion.toNat
  | .total => usage.prompt.toNat + usage.completion.toNat

def charged (counter : TokenUsage.Counter) (call : Call × Stage) : Nat :=
  TokenUsage.worth (charges call.1.outcome) counter

-- What a call is still to add to a counter.
def owing (counter : TokenUsage.Counter) : Call × Stage → Nat
  | (call, .asking) => TokenUsage.worth (charges call.outcome) counter
  | (_, .charging owed) => TokenUsage.worth owed counter

def Accounts.Balanced (accounts : Accounts) : Prop :=
  ∀ counter, ((accounts.usage.value counter).toNat + (accounts.calls.map (owing counter)).sum) % 2 ^ 64 =
    (accounts.calls.map (charged counter)).sum % 2 ^ 64

section
variable {accounts one two : Accounts} {call : Call} {usage : Usage} {error : LlmError}

-- The two counts of an answer are of 32 bits, so that their sum is one of 64.
theorem widened_sum (usage : Usage) :
    (usage.prompt.toUInt64 + usage.completion.toUInt64).toNat = usage.prompt.toNat + usage.completion.toNat := by
  have prompt := usage.prompt.toNat_lt
  have completion := usage.completion.toNat_lt
  rw [UInt64.toNat_add, UInt32.toNat_toUInt64, UInt32.toNat_toUInt64]
  apply Nat.mod_eq_of_lt
  omega

theorem worth_increments (usage : Usage) (counter : TokenUsage.Counter) :
    TokenUsage.worth usage.increments counter = usage.amount counter := by
  have sum := widened_sum usage
  cases counter with
  | prompt | completion => simp [Usage.increments, TokenUsage.increments, TokenUsage.worth, TokenUsage.Increment.toward,
      Usage.amount]
  | total =>
    simp only [Usage.increments, TokenUsage.increments, TokenUsage.worth, TokenUsage.Increment.toward, Usage.amount]
    simp [sum]

theorem count_charges (usage : TokenUsage) (outcome : Except LlmError Completion) :
    count usage outcome = (charges outcome).foldl TokenUsage.bump usage := by
  cases outcome with
  | error e => rfl
  | ok completion =>
    rw [count, charges, spent]
    cases completion.usage <;> rfl

theorem counts_value (calls : List (Call × Stage)) (usage : TokenUsage) (counter : TokenUsage.Counter) :
    ((calls.foldl (fun usage call => count usage call.1.outcome) usage).value counter).toNat =
      ((usage.value counter).toNat + (calls.map (charged counter)).sum) % 2 ^ 64 := by
  induction calls generalizing usage with
  | nil => exact (Nat.mod_eq_of_lt (UInt64.toNat_lt _)).symm
  | cons call rest ih =>
    rw [List.foldl_cons, ih, count_charges, TokenUsage.bumps_value, List.map_cons, List.sum_cons, charged,
      Nat.mod_add_mod, Nat.add_assoc]

theorem charged_blocks (calls : List (Call × Stage)) (counter : TokenUsage.Counter) :
    (calls.map (charged counter)).sum =
      ((calls.filterMap fun call => spent call.1.outcome).map fun usage => usage.amount counter).sum := by
  induction calls with
  | nil => rfl
  | cons call rest ih =>
    rw [List.map_cons, List.sum_cons, ih, charged, charges]
    cases block : spent call.1.outcome with
    | none => simp [block, TokenUsage.worth]
    | some usage => simp [block, worth_increments]

theorem fresh_balanced : Accounts.Balanced ⟨.zero, []⟩ := by
  intro counter
  cases counter <;> rfl

-- Whichever call goes on, nothing is lost and nothing is added twice.
theorem step_balanced (step : Accounts.Step one two) (balanced : one.Balanced) : two.Balanced := by
  intro counter
  have before := balanced counter
  cases step with
  | begins call =>
    simp only [List.map_append, List.sum_append, List.map_cons, List.map_nil, List.sum_cons, List.sum_nil, owing,
      charged] at before ⊢
    omega
  | settles =>
    simp only [List.map_append, List.sum_append, List.map_cons, List.sum_cons, owing, charged] at before ⊢
    exact before
  | adds =>
    simp only [List.map_append, List.sum_append, List.map_cons, List.sum_cons, owing, charged,
      TokenUsage.worth_cons] at before ⊢
    rw [TokenUsage.bump_value]
    omega

theorem runs_balanced (runs : Accounts.Runs accounts) : accounts.Balanced := by
  induction runs with
  | fresh => exact fresh_balanced
  | step runs step ih => exact step_balanced step ih

theorem finished_value (runs : Accounts.Runs accounts) (finished : accounts.Finished) (counter : TokenUsage.Counter) :
    (accounts.usage.value counter).toNat = (accounts.calls.map (charged counter)).sum % 2 ^ 64 := by
  have settled : ∀ call ∈ accounts.calls, owing counter call = 0 := by
    rintro ⟨call, stage⟩ present
    obtain rfl : stage = .charging [] := finished _ present
    rfl
  have nothing : (accounts.calls.map (owing counter)).sum = 0 := by
    rw [List.map_congr_left settled]
    simp
  rw [← runs_balanced runs counter, nothing]
  exact (Nat.mod_eq_of_lt (UInt64.toNat_lt _)).symm

theorem spent_decoded : spent call.outcome = some usage ↔
    ∃ completion, Decoded call.client call.network call.messages completion ∧ completion.usage = some usage := by
  simp only [← complete_ok, Call.outcome]
  cases call.client.complete call.network call.messages with
  | error error => simp [spent]
  | ok completion => simp [spent]

theorem failed_unspent (other : error ≠ .emptyResponse) (failed : replyOf call.outcome = .error error) :
    spent call.outcome = none := by
  cases settled : call.outcome with
  | error _ => rfl
  | ok completion =>
    rw [settled, replyOf] at failed
    cases content : completion.content with
    | none =>
      rw [content] at failed
      cases failed
      exact absurd rfl other
    | some text =>
      rw [content] at failed
      cases failed

end

-- Once all calls are finished, the counters are what they would be after one call at a time: the sums over the answers
-- that were read and say what they took, whether they have content or not. What failed is not counted.
theorem usage_accounted (accounts : Accounts) (runs : Accounts.Runs accounts) (finished : accounts.Finished) :
    accounts.usage.prompt.toNat = (accounts.blocks.map fun usage => usage.prompt.toNat).sum % 2 ^ 64 ∧
    accounts.usage.completion.toNat = (accounts.blocks.map fun usage => usage.completion.toNat).sum % 2 ^ 64 ∧
    accounts.usage.total = accounts.usage.prompt + accounts.usage.completion ∧
    accounts.usage = accounts.calls.foldl (fun usage call => count usage call.1.outcome) .zero ∧
    (∀ call : Call,
      (∀ usage, spent call.outcome = some usage ↔
        ∃ completion, Decoded call.client call.network call.messages completion ∧ completion.usage = some usage) ∧
      (replyOf call.outcome = .error .emptyResponse ↔
        ∃ completion, Decoded call.client call.network call.messages completion ∧ completion.content = none) ∧
      ∀ error, error ≠ .emptyResponse → replyOf call.outcome = .error error → spent call.outcome = none) ∧
    ∀ usage : Usage, (usage.prompt.toUInt64 + usage.completion.toUInt64).toNat =
      usage.prompt.toNat + usage.completion.toNat := by
  have values := finished_value runs finished
  have sums (counter : TokenUsage.Counter) : (accounts.usage.value counter).toNat =
      (accounts.blocks.map fun usage => usage.amount counter).sum % 2 ^ 64 := by
    rw [values, charged_blocks]
    rfl
  have prompt := sums .prompt
  have completion := sums .completion
  refine ⟨prompt, completion, ?_, ?_, ?_, widened_sum⟩
  · have total := sums .total
    have split : (accounts.blocks.map fun usage => usage.amount .total).sum =
        (accounts.blocks.map fun usage => usage.amount .prompt).sum +
          (accounts.blocks.map fun usage => usage.amount .completion).sum := List.sum_map_add
    apply UInt64.toNat_inj.mp
    rw [UInt64.toNat_add]
    simp only [TokenUsage.value] at prompt completion total
    omega
  · apply TokenUsage.same_values
    intro counter
    rw [values, counts_value]
    cases counter <;> exact congrArg (· % 2 ^ 64) (Nat.zero_add _).symm
  · intro call
    exact ⟨fun usage => spent_decoded, empty_decoded, fun error => failed_unspent⟩

-- Two answers, one of them without content, whose counts come between each other's, and a call that is never answered.
namespace Interleaved

def worded : String := "\x7b\"id\":\"\",\"choices\":[\x7b\"index\":0,\"message\":\x7b\"role\":\"user\"," ++
  "\"content\":\"hi\"\x7d\x7d],\"created\":0,\"model\":\"\",\"object\":\"\"," ++
  "\"usage\":\x7b\"prompt_tokens\":5,\"completion_tokens\":7,\"total_tokens\":12\x7d\x7d"
def wordless : String := "\x7b\"id\":\"\",\"choices\":[],\"created\":0,\"model\":\"\",\"object\":\"\"," ++
  "\"usage\":\x7b\"prompt_tokens\":1,\"completion_tokens\":2,\"total_tokens\":3\x7d\x7d"

def decoder : Decoder where
  completion content :=
    if content = worded.toUTF8 then .ok ⟨some "hi", some ⟨5, 7⟩⟩
    else if content = wordless.toUTF8 then .ok ⟨none, some ⟨1, 2⟩⟩
    else .error ""
  refusal _ := .error ""

def client : Client := ⟨"http://t", "", "", .nan, false, 60, decoder⟩
def page (content : String) : Http.Answer := ⟨200, content.toUTF8, true, "", ""⟩
def busy : Http.Answer := ⟨503, .empty, true, "", ""⟩
def asked (exchanges : List Http.Exchange) : Call := ⟨client, [], fun _ => exchanges⟩
def told : Call := asked [.answered (page worded)]
def silent : Call := asked [.answered busy, .answered (page wordless)]
def late : Call := asked []

theorem page_read {content : String} {completion : Completion}
    (read : decoder.completion content.toUTF8 = .ok completion) : Read client (page content) completion :=
  ⟨rfl, rfl, read⟩

theorem told_read : Read client (page worded) ⟨some "hi", some ⟨5, 7⟩⟩ :=
  page_read (by simp only [decoder, if_true])

theorem silent_read : Read client (page wordless) ⟨none, some ⟨1, 2⟩⟩ := by
  have other : wordless.toUTF8 ≠ worded.toUTF8 := by decide +kernel
  exact page_read (by simp only [decoder, if_neg other, if_true])

theorem posted : ∃ post, client.post [] = .ok post := by
  have sendable : (client.post []).isOk = true := by decide +kernel
  cases found : client.post [] with
  | error reason =>
    rw [found] at sendable
    cases sendable
  | ok post => exact ⟨post, rfl⟩

theorem told_outcome : told.outcome = .ok ⟨some "hi", some ⟨5, 7⟩⟩ := by
  obtain ⟨post, sent⟩ := posted
  exact complete_ok.mpr ⟨post, sent, [], _, [], rfl, by simp, told_read⟩

theorem silent_outcome : silent.outcome = .ok ⟨none, some ⟨1, 2⟩⟩ := by
  obtain ⟨post, sent⟩ := posted
  have again : ∀ exchange ∈ [Http.Exchange.answered busy], client.judge exchange = .again := by
    intro exchange present
    obtain rfl := List.mem_singleton.mp present
    rfl
  exact complete_ok.mpr ⟨post, sent, _, _, [], rfl, again, silent_read⟩

theorem late_outcome : late.outcome = .error (.timeout 60) := by
  obtain ⟨post, sent⟩ := posted
  have asks : late.client.post late.messages = .ok post := sent
  rw [Call.outcome, Client.complete, asks]
  rfl

theorem run : ∃ usage,
    Accounts.Runs ⟨usage, [(told, .charging []), (silent, .charging []), (late, .charging [])]⟩ := by
  have told_charges : charges told.outcome = [⟨.prompt, 5⟩, ⟨.completion, 7⟩, ⟨.total, 12⟩] := by
    rw [told_outcome]
    rfl
  have silent_charges : charges silent.outcome = [⟨.prompt, 1⟩, ⟨.completion, 2⟩, ⟨.total, 3⟩] := by
    rw [silent_outcome]
    rfl
  have late_charges : charges late.outcome = [] := by
    rw [late_outcome]
    rfl
  have began := ((Accounts.Runs.fresh.step (.begins told)).step (.begins silent)).step (.begins late)
  have heard := began.step (@Accounts.Step.settles _ [] _ told)
  have both := heard.step (@Accounts.Step.settles _ [(told, _)] _ silent)
  rw [told_charges, silent_charges] at both
  have first := both.step (@Accounts.Step.adds _ [] _ told _ _)
  have second := first.step (@Accounts.Step.adds _ [(told, _)] _ silent _ _)
  have third := second.step (@Accounts.Step.adds _ [(told, _)] _ silent _ _)
  have fourth := third.step (@Accounts.Step.adds _ [] _ told _ _)
  have gone := fourth.step (@Accounts.Step.settles _ [(told, _), (silent, _)] _ late)
  rw [late_charges] at gone
  have fifth := gone.step (@Accounts.Step.adds _ [(told, _)] _ silent _ _)
  exact ⟨_, fifth.step (@Accounts.Step.adds _ [] _ told _ _)⟩

end Interleaved

section
open Interleaved

theorem usage_accounted_interleaved :
    ∃ usage, Accounts.Runs ⟨usage, [(told, .charging []), (silent, .charging []), (late, .charging [])]⟩ ∧
      usage = ⟨6, 9, 15⟩ ∧ replyOf silent.outcome = .error .emptyResponse := by
  obtain ⟨usage, runs⟩ := run
  have finished : Accounts.Finished
      ⟨usage, [(told, .charging []), (silent, .charging []), (late, .charging [])]⟩ := by
    intro call present
    fin_cases present <;> rfl
  obtain ⟨-, -, -, counted, replies, -⟩ := usage_accounted _ runs finished
  obtain ⟨-, empty, -⟩ := replies silent
  refine ⟨usage, runs, ?_, empty.mpr ⟨_, complete_ok.mp silent_outcome, rfl⟩⟩
  have sums : usage = [told, silent, late].foldl (fun usage call => count usage call.outcome) .zero := counted
  rw [sums, List.foldl_cons, List.foldl_cons, List.foldl_cons, told_outcome, silent_outcome, late_outcome]
  rfl

end

end Chat
end ToolGateway
