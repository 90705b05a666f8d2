import ToolGateway.Proofs.Remote.Execution
import ToolGateway.Proofs.Session.Approval

namespace ToolGateway.Remote

-- What comes back for the request of a tool call, and nothing if its address cannot be sent to.
def came (remote : Remote) (network : Http.Network) (id : String) (action : Action) : Option Http.Exchange :=
  ((Rpc.invocation action).post remote.backend id).toOption.map network.once

inductive Event where
  | sent (e : Envelope)
  | called (action : Action) (came : Option Http.Exchange)

def Event.envelope? : Event → Option Envelope
  | .sent e => some e
  | .called _ _ => none

def callEvents (remote : Remote) (network : Http.Network) (id : String) : Session.Call → List Event
  | .plan _ => []
  | .tool action => [.called action (remote.came network id action)]

def frameEvents (remote : Remote) (network : Http.Network) (id : String) (s : Session) (raw : String) : List Event :=
  (s.receive raw).2.map .sent ++
    match (s.receive raw).1.call with
    | none => []
    | some call => remote.callEvents network id call ++
        ((s.receive raw).1.resume (remote.answer network id s.catalog call)).2.map .sent

-- The life of a session over whatever networks; a frame may be given up in the middle of its call.
inductive History (remote : Remote) : List Event → Session → Prop where
  | start {id : String} (started : remote.start network id = .ok (s, out)) : History remote (out.map .sent) s
  | frame (prior : History remote log s) (network : Http.Network) (id raw : String) :
      History remote (log ++ remote.frameEvents network id s raw) (remote.handle network id s raw).1
  | dropped (prior : History remote log s) :
      History remote (log ++ (s.receive raw).2.map .sent) (s.receive raw).1.giveUp

inductive Concludes (remote : Remote) : Option Http.Exchange → Envelope → Prop where
  | unsent (target : Http.target remote.backend = .error reason) : Concludes remote none (Rpc.failed reason)
  | back (target : Http.target remote.backend = .ok url) (delivers : Rpc.Delivers exchange e) :
      Concludes remote (some exchange) e

-- Results stand behind their calls, and calls before their envelopes.
structure Paired (remote : Remote) (log : List Event) : Prop where
  result : ∀ earlier e later, log = earlier ++ .sent e :: later → e.kind = .result →
    ∃ front action exchange, earlier = front ++ [.called action exchange] ∧ Concludes remote exchange e
  call : ∀ earlier action exchange later, log = earlier ++ .called action exchange :: later →
    ∃ e rest, later = .sent e :: rest ∧ Concludes remote exchange e

section
variable {remote : Remote} {network : Http.Network} {id raw : String} {s : Session} {log more : List Event}
  {out : List Envelope} {action : Action} {e : Envelope} {exchange : Option Http.Exchange}

theorem frameEvents_sent (remote : Remote) (network : Http.Network) (id : String) (s : Session) (raw : String) :
    (remote.frameEvents network id s raw).filterMap Event.envelope? = (remote.handle network id s raw).2 := by
  have shown (out : List Envelope) : (out.map Event.sent).filterMap Event.envelope? = out := by
    simp [List.filterMap_map, Function.comp_def, Event.envelope?]
  rw [frameEvents, handle, List.filterMap_append, shown]
  cases next : (s.receive raw).1.call with
  | none => simp [next]
  | some call =>
    have unseen : (remote.callEvents network id call).filterMap Event.envelope? = [] := by cases call <;> rfl
    simp [next, unseen, shown]

theorem Paired.append (one : Paired remote log) (two : Paired remote more) : Paired remote (log ++ more) where
  result := by
    intro earlier e later cut finished
    rcases List.append_eq_append_iff.mp cut with ⟨inner, rfl, made⟩ | ⟨inner, made, rest⟩
    · obtain ⟨front, action, exchange, rfl, concludes⟩ := two.result inner e later made finished
      exact ⟨log ++ front, action, exchange, (List.append_assoc ..).symm, concludes⟩
    · cases inner with
      | nil =>
        obtain ⟨front, action, exchange, impossible, _⟩ := two.result [] e later rest.symm finished
        simp at impossible
      | cons first others =>
        obtain ⟨rfl, _⟩ := List.cons.inj rest
        exact one.result earlier e others made finished
  call := by
    intro earlier action exchange later cut
    rcases List.append_eq_append_iff.mp cut with ⟨inner, rfl, made⟩ | ⟨inner, made, rest⟩
    · exact two.call inner action exchange later made
    · cases inner with
      | nil => exact two.call [] action exchange later rest.symm
      | cons first others =>
        obtain ⟨rfl, rfl⟩ := List.cons.inj rest
        obtain ⟨e, tail, rfl, concludes⟩ := one.call earlier action exchange others made
        exact ⟨e, tail ++ more, rfl, concludes⟩

theorem paired_plain (plain : ∀ e ∈ out, e.kind ≠ .result) : Paired remote (out.map .sent) where
  result := by
    intro earlier e later cut finished
    have present : Event.sent e ∈ out.map Event.sent := by rw [cut]; simp
    obtain ⟨_, inside, same⟩ := List.mem_map.mp present
    cases same
    exact absurd finished (plain e inside)
  call := by
    intro earlier action exchange later cut
    have present : Event.called action exchange ∈ out.map Event.sent := by rw [cut]; simp
    obtain ⟨_, _, impossible⟩ := List.mem_map.mp present
    cases impossible

theorem paired_call (concludes : Concludes remote exchange e) : Paired remote [.called action exchange, .sent e] where
  result := by
    intro earlier other later cut finished
    rcases earlier with _ | ⟨first, _ | ⟨second, rest⟩⟩
    · cases cut
    · cases cut
      exact ⟨[], action, exchange, rfl, concludes⟩
    · cases rest <;> cases cut
  call := by
    intro earlier action other later cut
    rcases earlier with _ | ⟨first, _ | ⟨second, rest⟩⟩
    · cases cut
      exact ⟨e, [], rfl, concludes⟩
    · cases cut
    · cases rest <;> cases cut

theorem invoke_concludes (remote : Remote) (network : Http.Network) (id : String) (action : Action) :
    Concludes remote (remote.came network id action)
      (Session.executed (Rpc.invoke network remote.backend id action)) := by
  rw [came, Rpc.invoke, Rpc.Call.perform, Rpc.Call.post]
  cases target : Http.target remote.backend with
  | error reason =>
    have envelope : Session.executed (Except.bind (.error (.transport reason)) Rpc.outcome) = Rpc.failed reason :=
      Rpc.executed_error (.transport reason)
    exact envelope ▸ .unsent target
  | ok url => exact .back target (Rpc.delivers_complete action _)

theorem receive_plain (s : Session) (raw : String) : ∀ e ∈ (s.receive raw).2, e.kind ≠ .result := by
  unfold Session.receive
  split
  · rename_i error _
    cases error <;> simp [Session.rejection, Envelope.error]
  · split
    · simp [Session.request, Envelope.bot]
    · unfold Session.settle
      split <;> simp [Envelope.bot]

theorem planned_plain (s : Session) (reply : LlmReply) : ∀ e ∈ (s.planned reply).2, e.kind ≠ .result := by
  unfold Session.planned
  split
  · simp [Envelope.error]
  · split <;> simp [Envelope.bot, Envelope.confirm]

theorem frameEvents_paired (remote : Remote) (network : Http.Network) (id : String) (s : Session) (raw : String) :
    Paired remote (remote.frameEvents network id s raw) := by
  have heard : Paired remote ((s.receive raw).2.map .sent) := paired_plain (receive_plain s raw)
  unfold frameEvents
  split
  · rw [List.append_nil]
    exact heard
  · rename_i call busy
    refine heard.append ?_
    cases call with
    | plan text =>
      have resumed (reply : LlmReply) : (s.receive raw).1.resume (.reply reply) =
          ({(s.receive raw).1 with call := none} : Session).planned reply := by
        simp only [Session.resume, busy]
      rw [callEvents, List.nil_append, answer, resumed]
      exact paired_plain (planned_plain _ _)
    | tool action =>
      have resumed (result : CallResult) :
          ((s.receive raw).1.resume (.outcome result)).2 = [Session.executed result] := by
        simp only [Session.resume, busy]
      rw [callEvents, answer, resumed]
      exact paired_call (invoke_concludes remote network id action)

theorem History.paired (history : History remote log s) : Paired remote log := by
  induction history with
  | start started =>
    unfold Remote.start Session.start at started
    split at started
    · cases started
    · cases started
      exact paired_plain (by simp [Envelope.bot])
  | frame prior network id raw ih => exact ih.append (frameEvents_paired _ _ _ _ _)
  | dropped prior ih => exact ih.append (paired_plain (receive_plain _ _))

theorem concludes_done {payload : Json} (concludes : Concludes remote exchange e) (finished : e.kind = .result)
    (present : e.payload = some payload) (reports : payload.get? "isError" = some (.bool true)) :
    ∃ answer document written, exchange = some (.answered answer) ∧ Rpc.Passes answer document ∧
      document.get? "error" = none ∧ document.get? "result" = some (.text written) ∧
      Json.parse? written = some payload := by
  cases concludes with
  | unsent target => cases finished
  | back target delivers =>
    cases delivers with
    | done passes clean given sound rendered =>
      cases rendered with
      | spelled read whole =>
        cases present
        exact ⟨_, _, _, rfl, passes, clean, given, read⟩
      | nothing => cases present
      | array | object =>
        cases present
        exact absurd reports sound
      | text | bool | whole | real =>
        cases present
        cases reports
    | _ => cases finished

theorem concludes_failed {answer : Http.Answer} {document result : Json}
    (concludes : Concludes remote (some (.answered answer)) e) (passes : Rpc.Passes answer document)
    (clean : document.get? "error" = none) (given : document.get? "result" = some result)
    (reports : result.get? "isError" = some (.bool true)) : ∃ t, e = Rpc.failed t ∧ Rpc.Explained result t := by
  have same {other : Json} (passed : Rpc.Passes answer other) : other = document :=
    Option.some.inj (passed.read.symm.trans passes.read)
  cases concludes with
  | back target delivers =>
    cases delivers with
    | refused low high => exact absurd ⟨low, high⟩ passes.accepted
    | undecoded accepted unread => cases unread.symm.trans passes.read
    | reported passed present code message =>
      cases same passed
      cases clean.symm.trans present
    | missing passed clean' absent =>
      cases same passed
      cases absent.symm.trans given
    | toolFailed passed clean' present explained =>
      cases same passed
      cases present.symm.trans given
      exact ⟨_, rfl, explained⟩
    | done passed clean' present sound rendered =>
      cases same passed
      cases present.symm.trans given
      exact absurd reports sound

-- The events of a frame are what it sends, with the calls between. A result that reports a failure goes out as an
-- error. An object among the successes that says it is an error was spelled by a text.
theorem reported_failures_shown (history : History remote log s) :
    (∀ network id s raw, (remote.frameEvents network id s raw).filterMap Event.envelope? =
      (remote.handle network id s raw).2) ∧
    (∀ earlier e later payload, log = earlier ++ .sent e :: later → e.kind = .result → e.payload = some payload →
      payload.get? "isError" = some (.bool true) →
      ∃ front action answer document written, earlier = front ++ [.called action (some (.answered answer))] ∧
        Rpc.Passes answer document ∧ document.get? "error" = none ∧
        document.get? "result" = some (.text written) ∧ Json.parse? written = some payload) ∧
    ∀ earlier action answer later document result,
      log = earlier ++ .called action (some (.answered answer)) :: later → Rpc.Passes answer document →
      document.get? "error" = none → document.get? "result" = some result →
      result.get? "isError" = some (.bool true) →
      ∃ t rest, later = .sent (Rpc.failed t) :: rest ∧ Rpc.Explained result t := by
  obtain ⟨results, calls⟩ := history.paired
  refine ⟨fun network id s raw => frameEvents_sent remote network id s raw, ?_, ?_⟩
  · intro earlier e later payload cut finished present reports
    obtain ⟨front, action, exchange, rfl, concludes⟩ := results earlier e later cut finished
    obtain ⟨answer, document, written, rfl, passes, clean, given, read⟩ :=
      concludes_done concludes finished present reports
    exact ⟨front, action, answer, document, written, rfl, passes, clean, given, read⟩
  · intro earlier action answer later document result cut passes clean given reports
    obtain ⟨e, rest, rfl, concludes⟩ := calls earlier action _ later cut
    obtain ⟨t, rfl, explained⟩ := concludes_failed concludes passes clean given reports
    exact ⟨t, rest, rfl, explained⟩

end

namespace SpelledError

open Session.SecondYes (plan yes action)

-- The library reads every content as the one completion that is asked for.
def remote : Remote :=
  ⟨"http://t/", ⟨"http://t", "", "", .nan, false, 0, ⟨fun _ => .ok ⟨some plan, none⟩, fun _ => .error ""⟩⟩⟩
def page (content : String) : Http.Answer := ⟨200, content.toUTF8, true, "", ""⟩
def server (content : String) : Http.Network := fun _ => [.answered (page content)]
def listing : String := "\x7b\"result\":0\x7d"
def completion : String := "\x7b\"id\":\"\",\"choices\":[\x7b\"index\":0,\"message\":\x7b\"role\":\"user\"," ++
  "\"content\":\"\x7b\\\"tool\\\":\\\"t\\\"\x7d\"\x7d\x7d],\"created\":0,\"model\":\"\",\"object\":\"\"\x7d"
def written : String := "\x7b\"isError\":true\x7d"
def spelled : String := "\x7b\"result\":\"\x7b\\\"isError\\\":true\x7d\"\x7d"
def payload : Json := .object [("isError", .bool true)]
def request : String := "[\"user\",\"go\"]"
def fresh : Session := ⟨[], none, none⟩
def waiting : Session := ⟨[], some action, none⟩
def finished : Envelope := ⟨.result, Session.Texts.done, some payload⟩

def earlier : List Event :=
  [.sent (.bot Session.Texts.greeting)] ++ remote.frameEvents (server completion) "1" fresh request ++
    [.sent (.bot Session.Texts.executing), .called action (some (.answered (page spelled)))]

theorem reachable (address : String) (named : (Http.target address).isOk = true) :
    ∃ url, Http.target address = .ok url := by
  cases found : Http.target address with
  | error reason => rw [found] at named; cases named
  | ok url => exact ⟨url, rfl⟩

theorem passes {content : String} {document : Json} (read : Json.parse? content = some document) :
    Rpc.Passes (page content) document :=
  Rpc.passes_written (by decide) rfl read

theorem opened : remote.start (server listing) "1" = .ok (fresh, [.bot Session.Texts.greeting]) := by
  obtain ⟨url, target⟩ := reachable remote.backend (by decide +kernel)
  have read : Json.parse? listing = some (.object [("result", .whole 0)]) := by cbv
  have judged : Rpc.listing.judge (.answered (page listing)) = .ok (.whole 0) :=
    Rpc.judge_passed Rpc.listing (passes read)
  have listed : Rpc.list (server listing) remote.backend "1" = .ok [] := by
    rw [Rpc.list, Rpc.Call.perform, Rpc.Call.post, target]
    exact congrArg (Except.map Rpc.descriptors) judged
  rw [start, listed]
  rfl

theorem planned : remote.answer (server completion) "1" [] (.plan "go") = .reply (.ok plan) := by
  obtain ⟨url, target⟩ := reachable remote.model.address (by decide +kernel)
  have judged : remote.model.judge (.answered (page completion)) = .settled (.ok ⟨some plan, none⟩) := rfl
  have completed : remote.model.complete (server completion) (Planner.request [] "go") = .ok ⟨some plan, none⟩ := by
    rw [Chat.Client.complete, Chat.Client.post, target]
    simp only [Except.map, server, Chat.Client.settle, judged]
  rw [Remote.answer, completed]
  rfl

theorem asked : (remote.handle (server completion) "1" fresh request).1 = waiting := by
  have heard : fresh.receive request = (⟨[], none, some (.plan "go")⟩, [.bot Session.Texts.thinking]) := by cbv
  have catalog : fresh.catalog = [] := rfl
  rw [handle, heard, catalog]
  simp only [planned]
  cbv

theorem heard : UserMessage.userText yes = .ok "yes" := by cbv

theorem confirmed : remote.frameEvents (server spelled) "1" waiting yes =
    [.sent (.bot Session.Texts.executing), .called action (some (.answered (page spelled))), .sent finished] := by
  obtain ⟨url, target⟩ := reachable remote.backend (by decide +kernel)
  have read : Json.parse? spelled = some (.object [("result", .text written)]) := by cbv
  have spelt : Json.parse? written = some payload := by cbv
  have sound : (Json.text written).get? "isError" ≠ some (.bool true) := by simp [Json.get?]
  have ended : Session.executed (Rpc.invoke (server spelled) remote.backend "1" action) = finished := by
    rw [Rpc.invoke, Rpc.Call.perform, Rpc.Call.post, target]
    exact Rpc.delivers_sound action (.done (passes read) rfl rfl sound (.spelled spelt rfl))
  have back : remote.came (server spelled) "1" action = some (.answered (page spelled)) := by
    rw [came, Rpc.Call.post, target]
    rfl
  rw [frameEvents, receive_approved (s := waiting) rfl heard (by cbv)]
  simp only [callEvents, back, Session.resume, Remote.answer, ended]
  rfl

theorem history : History remote (earlier ++ [.sent finished]) fresh := by
  have settled : (remote.handle (server spelled) "1" waiting yes).1 = fresh := by
    rw [handle_approved (server spelled) rfl rfl heard (by cbv)]
    rfl
  have first := (History.start opened).frame (server completion) "1" request
  rw [asked] at first
  have last := first.frame (server spelled) "1" yes
  rw [confirmed, settled] at last
  simpa only [earlier, List.append_assoc, List.map_cons, List.map_nil, List.cons_append, List.nil_append] using last

end SpelledError

theorem reported_failures_shown_spelled :
    History SpelledError.remote (SpelledError.earlier ++ [.sent SpelledError.finished]) SpelledError.fresh ∧
      ∃ front action answer document written,
        SpelledError.earlier = front ++ [.called action (some (.answered answer))] ∧ Rpc.Passes answer document ∧
          document.get? "result" = some (.text written) ∧ Json.parse? written = some SpelledError.payload := by
  obtain ⟨front, action, answer, document, written, cut, passes, _, given, read⟩ :=
    (reported_failures_shown SpelledError.history).2.1 _ _ _ _ rfl rfl rfl rfl
  exact ⟨SpelledError.history, front, action, answer, document, written, cut, passes, given, read⟩

-- The text of such an object goes out as the object, and as a success.
theorem spelled_failure_succeeds : ¬ ∀ remote log s, History remote log s → ∀ e payload, .sent e ∈ log →
    e.kind = .result → e.payload = some payload → payload.get? "isError" ≠ some (.bool true) := by
  intro every
  exact every _ _ _ SpelledError.history SpelledError.finished SpelledError.payload (by simp) rfl rfl rfl

end ToolGateway.Remote
