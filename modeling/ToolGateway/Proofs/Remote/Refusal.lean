import ToolGateway.Proofs.Remote.Failure

namespace ToolGateway

namespace Rpc

-- The statuses of failure; not all that lie outside those of success.
def Refused (answer : Http.Answer) : Prop := 400 ≤ answer.status ∧ answer.status ≤ 599

section
variable {call : Call} {network : Http.Network} {address id reason : String} {post : Http.Post} {answer : Http.Answer}
  {action : Action}

theorem result_transport (call : Call) (document : Json) : call.result document ≠ .error (.transport reason) := by
  unfold Call.result
  split <;> simp [reported]

theorem outcome_transport (result : Json) : outcome result ≠ .error (.transport reason) := by
  unfold outcome
  split <;> simp

theorem judge_transport (call : Call) : call.judge (.answered answer) = .error (.transport reason) ↔
    Refused answer ∧ answer.refusal = reason := by
  rw [Call.judge]
  by_cases failing : Http.Status.isError answer.status = true
  · have refused : Refused answer := status_exact.mp failing
    simp [failing, refused]
  · have accepted : ¬ Refused answer := mt status_exact.mpr failing
    rw [if_neg failing]
    cases answer.document? with
    | none => simp [accepted]
    | some document => simp [accepted, result_transport]

theorem perform_answered (posted : call.post address id = .ok post) (answered : network.once post = .answered answer) :
    call.perform network address id = call.judge (.answered answer) := by
  rw [Call.perform, posted]
  exact congrArg call.judge answered

theorem list_transport (posted : listing.post address id = .ok post) (answered : network.once post = .answered answer) :
    list network address id = .error (.transport reason) ↔ Refused answer ∧ answer.refusal = reason := by
  rw [← judge_transport listing, list, perform_answered posted answered]
  cases listing.judge (.answered answer) <;> simp [Except.map]

theorem invoke_transport (posted : (invocation action).post address id = .ok post)
    (answered : network.once post = .answered answer) :
    invoke network address id action = .error (.transport reason) ↔
      Refused answer ∧ answer.refusal = reason := by
  rw [← judge_transport (invocation action), invoke, perform_answered posted answered]
  cases (invocation action).judge (.answered answer) with
  | error failure => simp [Except.bind]
  | ok result => simp [Except.bind, outcome_transport]

end

end Rpc

namespace Remote

section
variable {remote : Remote} {answer : Http.Answer} {e : Envelope} {exchange : Option Http.Exchange}

theorem start_refused {network : Http.Network} {id reason : String}
    (refused : Rpc.list network remote.backend id = .error (.transport reason)) :
    remote.start network id = .error (.catalogFetch (.transport reason)) := by
  rw [start, refused]
  rfl

theorem concludes_accepted (concludes : Concludes remote exchange e) (finished : e.kind = .result) :
    ∃ answer, exchange = some (.answered answer) ∧ ¬ Rpc.Refused answer := by
  cases concludes with
  | unsent target => cases finished
  | back target delivers =>
    cases delivers with
    | done passes => exact ⟨_, rfl, passes.accepted⟩
    | _ => cases finished

theorem concludes_refused (concludes : Concludes remote (some (.answered answer)) e) (refused : Rpc.Refused answer) :
    e = Rpc.failed answer.refusal := by
  cases concludes with
  | back target delivers =>
    cases delivers with
    | refused => rfl
    | undecoded accepted => exact absurd refused accepted
    | reported passes | missing passes | toolFailed passes | done passes => exact absurd refused passes.accepted

end

-- An answer with a failing status is a failure of the transport, and no other answer is. With it no session starts,
-- and a call that it comes back for ends in an error.
theorem failing_statuses_refused (remote : Remote) (network : Http.Network) (id : String) (action : Action) :
    (∀ post answer, Rpc.listing.post remote.backend id = .ok post → network.once post = .answered answer →
      ((∃ reason, Rpc.list network remote.backend id = .error (.transport reason)) ↔ Rpc.Refused answer) ∧
      (Rpc.Refused answer → ∃ reason, remote.start network id = .error (.catalogFetch (.transport reason)))) ∧
    (∀ post answer, (Rpc.invocation action).post remote.backend id = .ok post →
      network.once post = .answered answer →
      ((∃ reason, Rpc.invoke network remote.backend id action = .error (.transport reason)) ↔ Rpc.Refused answer)) ∧
    ∀ log s, History remote log s →
      (∀ earlier e later, log = earlier ++ .sent e :: later → e.kind = .result →
        ∃ front action answer, earlier = front ++ [.called action (some (.answered answer))] ∧
          ¬ Rpc.Refused answer) ∧
      ∀ earlier action answer later, log = earlier ++ .called action (some (.answered answer)) :: later →
        Rpc.Refused answer → ∃ reason rest, later = .sent (Rpc.failed reason) :: rest := by
  refine ⟨?_, ?_, fun log s history => ?_⟩
  · intro post answer posted answered
    refine ⟨⟨fun ⟨_, lost⟩ => ((Rpc.list_transport posted answered).mp lost).1, fun refused => ?_⟩, fun refused => ?_⟩
    · exact ⟨_, (Rpc.list_transport posted answered).mpr ⟨refused, rfl⟩⟩
    · exact ⟨_, start_refused ((Rpc.list_transport posted answered).mpr ⟨refused, rfl⟩)⟩
  · intro post answer posted answered
    exact ⟨fun ⟨_, lost⟩ => ((Rpc.invoke_transport posted answered).mp lost).1,
      fun refused => ⟨_, (Rpc.invoke_transport posted answered).mpr ⟨refused, rfl⟩⟩⟩
  · obtain ⟨results, calls⟩ := history.paired
    constructor
    · intro earlier e later cut finished
      obtain ⟨front, action, exchange, rfl, concludes⟩ := results earlier e later cut finished
      obtain ⟨answer, rfl, accepted⟩ := concludes_accepted concludes finished
      exact ⟨front, action, answer, rfl, accepted⟩
    · intro earlier action answer later cut refused
      obtain ⟨e, rest, rfl, concludes⟩ := calls earlier action _ later cut
      exact ⟨answer.refusal, rest, by rw [concludes_refused concludes refused]⟩

-- A server whose content would be a success, under any status, and a session that waits for it.
namespace Disguised

open SpelledError (remote fresh waiting)
open Session.SecondYes (yes action)

def page (status : Nat) (content : String) : Http.Answer := ⟨status, content.toUTF8, true, "", ""⟩
def server (status : Nat) (content : String) : Http.Network := fun _ => [.answered (page status content)]
def listing : String := "\x7b\"result\":\x7b\"tools\":[\x7b\"name\":\"ping\"\x7d]\x7d\x7d"
def called : String := "\x7b\"result\":\"up\"\x7d"
def ping : Tool := ⟨"ping", "", Tool.emptySchema⟩

def before : List Event :=
  [.sent (.bot Session.Texts.greeting)] ++
    remote.frameEvents (SpelledError.server SpelledError.completion) "1" fresh SpelledError.request

theorem posted (call : Rpc.Call) : ∃ post, call.post remote.backend "1" = .ok post := by
  obtain ⟨url, target⟩ := SpelledError.reachable remote.backend (by decide +kernel)
  rw [Rpc.Call.post, target]
  exact ⟨_, rfl⟩

theorem performed {call : Rpc.Call} {content : String} {document : Json} (read : Json.parse? content = some document) :
    call.perform (server 300 content) remote.backend "1" = call.result document := by
  obtain ⟨post, sent⟩ := posted call
  have passes : Rpc.Passes (page 300 content) document := Rpc.passes_written (by decide) rfl read
  rw [Rpc.perform_answered sent rfl, Rpc.judge_passed call passes]

theorem history (status : Nat) (content : String) :
    History remote (before ++ [.sent (.bot Session.Texts.executing), .called action (some (.answered (page status content))),
      .sent (Session.executed (Rpc.invoke (server status content) remote.backend "1" action))]) fresh := by
  obtain ⟨post, sent⟩ := posted (Rpc.invocation action)
  have back : remote.came (server status content) "1" action = some (.answered (page status content)) := by
    rw [came, sent]
    rfl
  have events : remote.frameEvents (server status content) "1" waiting yes =
      [.sent (.bot Session.Texts.executing), .called action (some (.answered (page status content))),
        .sent (Session.executed (Rpc.invoke (server status content) remote.backend "1" action))] := by
    rw [frameEvents, receive_approved (s := waiting) rfl SpelledError.heard (by cbv)]
    simp only [callEvents, back, Session.resume, Remote.answer]
    rfl
  have settled : (remote.handle (server status content) "1" waiting yes).1 = fresh := by
    rw [handle_approved (server status content) rfl rfl SpelledError.heard (by cbv)]
    rfl
  have first := (History.start SpelledError.opened).frame (SpelledError.server SpelledError.completion) "1"
    SpelledError.request
  rw [SpelledError.asked] at first
  have last := first.frame (server status content) "1" yes
  rwa [events, settled] at last

end Disguised

section
open Disguised

theorem failing_statuses_refused_disguised :
    (∃ reason, Rpc.list (server 404 listing) SpelledError.remote.backend "1" = .error (.transport reason)) ∧
    (∃ reason, Rpc.invoke (server 404 called) SpelledError.remote.backend "1" Session.SecondYes.action =
      .error (.transport reason)) ∧
    (∃ reason, SpelledError.remote.start (server 404 listing) "1" = .error (.catalogFetch (.transport reason))) ∧
    (∃ reason, Session.executed (Rpc.invoke (server 404 called) SpelledError.remote.backend "1"
      Session.SecondYes.action) = Rpc.failed reason) ∧
    ∃ front action answer, SpelledError.earlier = front ++ [.called action (some (.answered answer))] ∧
      ¬ Rpc.Refused answer := by
  have refused (content : String) : Rpc.Refused (page 404 content) := by simp [Rpc.Refused, page]
  obtain ⟨_, asked⟩ := posted Rpc.listing
  obtain ⟨_, sent⟩ := posted (Rpc.invocation Session.SecondYes.action)
  obtain ⟨lists, starts⟩ :=
    (failing_statuses_refused SpelledError.remote (server 404 listing) "1" Session.SecondYes.action).1 _ _ asked rfl
  obtain ⟨-, invokes, runs⟩ :=
    failing_statuses_refused SpelledError.remote (server 404 called) "1" Session.SecondYes.action
  obtain ⟨reason, _, ended⟩ := (runs _ _ (history 404 called)).2 (before ++ [_]) _ _ _
    (List.append_assoc before [_] _).symm (refused called)
  refine ⟨lists.mpr (refused listing), (invokes _ _ sent rfl).mpr (refused called), starts (refused listing),
    ⟨reason, ?_⟩, (runs _ _ SpelledError.history).1 _ _ _ rfl rfl⟩
  exact Event.sent.inj (List.cons.inj ended).1

-- Statuses that are neither of success nor of failure let the content through: a session starts, and a call succeeds.
theorem redirection_accepted :
    Http.Status.isSuccess 300 = false ∧
    SpelledError.remote.start (server 300 listing) "1" =
      .ok (⟨[ping], none, none⟩, [.bot Session.Texts.greeting]) ∧
    SpelledError.remote.handle (server 300 called) "1" SpelledError.waiting Session.SecondYes.yes =
      (SpelledError.fresh, [.bot Session.Texts.executing, ⟨.result, Session.Texts.done, some (.text "up")⟩]) := by
  refine ⟨rfl, ?_, ?_⟩
  · have read : Json.parse? listing =
        some (.object [("result", .object [("tools", .array [.object [("name", .text "ping")]])])]) := by cbv
    rw [start, Rpc.list, performed read]
    cbv
  · have read : Json.parse? called = some (.object [("result", .text "up")]) := by cbv
    rw [handle_approved (server 300 called) rfl rfl SpelledError.heard (by cbv), Rpc.invoke, performed read]
    rfl

end

end Remote
end ToolGateway
