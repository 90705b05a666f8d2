import ToolGateway.Proofs.Json.Access
import ToolGateway.Proofs.Json.Canonical
import ToolGateway.Session.Remote
import ToolGateway.Socket

namespace ToolGateway

namespace Rpc

def failed (reason : String) : Envelope := .error ("❌ Execution failed: " ++ reason)

-- The code of an error: a signed word, or zero when there is none.
inductive Coded (error : Json) : Int → Prop where
  | signed (code : error.get? "code" = some (.whole n)) (low : -2 ^ 63 ≤ n) (high : n < 2 ^ 63) : Coded error n
  | unreadable (unfit : ∀ n, error.get? "code" = some (.whole n) → ¬ (-2 ^ 63 ≤ n ∧ n < 2 ^ 63)) : Coded error 0

inductive Worded (error : Json) : String → Prop where
  | given (message : error.get? "message" = some (.text t)) : Worded error t
  | shown (silent : ∀ t, error.get? "message" ≠ some (.text t)) : Worded error (Json.compact error)

inductive Explained (result : Json) : String → Prop where
  | given (reports : result.get? "isError" = some (.bool true))
      (text : String.intercalate "\n" (ToolOutput.contentTexts result) ≠ "") :
      Explained result (String.intercalate "\n" (ToolOutput.contentTexts result))
  | unexplained (reports : result.get? "isError" = some (.bool true))
      (silent : String.intercalate "\n" (ToolOutput.contentTexts result) = "") :
      Explained result "tool reported an error"

-- The payload for a result. A text is replaced by the array or the object that it spells.
inductive Rendered : Json → Option Json → Prop where
  | nothing : Rendered .null none
  | array : Rendered (.array items) (some (.array items))
  | object : Rendered (.object members) (some (.object members))
  | spelled (read : Json.parse? written = some document) (whole : document.isDocument = true) :
      Rendered (.text written) (some document)
  | text (plain : ∀ document, Json.parse? written = some document → document.isDocument = false) :
      Rendered (.text written) (some (.text written))
  | bool : Rendered (.bool b) (some (.text (Json.compact (.bool b))))
  | whole : Rendered (.whole n) (some (.text (Json.compact (.whole n))))
  | real : Rendered (.real x) (some (.text (Json.compact (.real x))))

structure Passes (answer : Http.Answer) (document : Json) : Prop where
  accepted : ¬ (400 ≤ answer.status ∧ answer.status ≤ 599)
  read : answer.document? = some document

-- Which envelope a tool call ends with, by what came back for its request.
inductive Delivers : Http.Exchange → Envelope → Prop where
  | unreached : Delivers (.failed reason) (failed reason)
  | refused (low : 400 ≤ answer.status) (high : answer.status ≤ 599) :
      Delivers (.answered answer) (failed answer.refusal)
  | undecoded (accepted : ¬ (400 ≤ answer.status ∧ answer.status ≤ 599)) (unread : answer.document? = none) :
      Delivers (.answered answer) (failed ("invalid response: " ++ answer.defect))
  | reported (passes : Passes answer document) (present : document.get? "error" = some error)
      (code : Coded error c) (message : Worded error t) :
      Delivers (.answered answer) (failed ("MCP error " ++ toString c ++ ": " ++ t))
  | missing (passes : Passes answer document) (clean : document.get? "error" = none)
      (absent : document.get? "result" = none) :
      Delivers (.answered answer) (failed "invalid response: missing result in tools/call")
  | toolFailed (passes : Passes answer document) (clean : document.get? "error" = none)
      (present : document.get? "result" = some result) (explained : Explained result t) :
      Delivers (.answered answer) (failed t)
  | done (passes : Passes answer document) (clean : document.get? "error" = none)
      (present : document.get? "result" = some result) (sound : result.get? "isError" ≠ some (.bool true))
      (rendered : Rendered result payload) :
      Delivers (.answered answer) ⟨.result, Session.Texts.done, payload⟩

section
variable {error result document : Json} {c : Int} {t : String} {payload : Option Json} {e : Envelope}
  {answer : Http.Answer}

theorem signed?_exact {v : Json} {n : Int} : v.signed? = some n ↔ v = .whole n ∧ n < 2 ^ 63 := by
  have bound : Int.pow 2 63 = 2 ^ 63 := rfl
  cases v with
  | whole m => unfold Json.signed?; rw [bound]; grind
  | _ => simp [Json.signed?]

theorem code_exact {n : Int} (canonical : error.Canonical) : (error.get? "code").bind Json.signed? = some n ↔
    error.get? "code" = some (.whole n) ∧ -2 ^ 63 ≤ n ∧ n < 2 ^ 63 := by
  simp only [Option.bind_eq_some_iff, signed?_exact]
  constructor
  · rintro ⟨v, present, rfl, high⟩
    exact ⟨present, (Json.canonical_get? canonical present (.whole n) (by simp [Json.parts])).1, high⟩
  · rintro ⟨present, _, high⟩
    exact ⟨.whole n, present, rfl, high⟩

theorem coded_exact (canonical : error.Canonical) :
    Coded error c ↔ ((error.get? "code").bind Json.signed?).getD 0 = c := by
  rw [getD_exact fun n => code_exact canonical]
  constructor
  · intro coded
    cases coded with
    | signed code low high => exact .inl ⟨code, low, high⟩
    | unreadable unfit => exact .inr ⟨fun n given => unfit n given.1 given.2, rfl⟩
  · rintro (⟨code, low, high⟩ | ⟨nothing, rfl⟩)
    · exact .signed code low high
    · exact .unreadable fun n code fits => nothing n ⟨code, fits⟩

theorem worded_exact : Worded error t ↔ (error.textAt "message").getD (Json.compact error) = t := by
  rw [getD_exact fun t => textAt_exact]
  constructor
  · intro worded
    cases worded with
    | given message => exact .inl message
    | shown silent => exact .inr ⟨silent, rfl⟩
  · rintro (message | ⟨silent, rfl⟩)
    · exact .given message
    · exact .shown silent

theorem reports_exact : (result.get? "isError").bind Json.bool? = some true ↔
    result.get? "isError" = some (.bool true) := by
  have truth (v : Json) : v.bool? = some true ↔ v = .bool true := by cases v <;> simp [Json.bool?]
  simp [Option.bind_eq_some_iff, truth]

theorem failure?_exact : ToolOutput.failure? result = some t ↔ Explained result t := by
  unfold ToolOutput.failure?
  constructor
  · intro failure
    split at failure
    · have reports := reports_exact.mp ‹_›
      cases failure
      split
      · exact .unexplained reports ‹_›
      · exact .given reports ‹_›
    · cases failure
  · intro explained
    cases explained with
    | given reports text => rw [if_pos (reports_exact.mpr reports)]; simp only [if_neg text]
    | unexplained reports silent => rw [if_pos (reports_exact.mpr reports)]; simp only [if_pos silent]; rfl

theorem failure?_none : ToolOutput.failure? result = none ↔ result.get? "isError" ≠ some (.bool true) := by
  unfold ToolOutput.failure?
  simp [reports_exact]

theorem rendered_text {written : String} : Rendered (.text written) payload ↔
    some (ToolOutput.jsonText written).document = payload := by
  simp only [ToolOutput.document]
  constructor
  · intro rendered
    cases rendered with
    | spelled read whole => simp [read, whole]
    | text plain =>
      cases read : Json.parse? written with
      | none => rfl
      | some document => simp only [plain document read, Bool.false_eq_true, if_false]
  · rintro rfl
    cases read : Json.parse? written with
    | none => exact .text (by simp [read])
    | some document =>
      cases whole : document.isDocument with
      | true => simpa [whole] using Rendered.spelled read whole
      | false =>
        have plain : ∀ other, Json.parse? written = some other → other.isDocument = false := by simp [read, whole]
        simpa [whole] using Rendered.text plain

theorem jsonText_shown (written : String) : (ToolOutput.jsonText written).document.isNull = false := by
  simp only [ToolOutput.document]
  split
  · rename_i document _
    cases document <;> rfl
  · rfl

theorem rendered_exact : Rendered result payload ↔
    Envelope.result Session.Texts.done (ToolOutput.ofResult result).document =
      ⟨.result, Session.Texts.done, payload⟩ := by
  have delivered : Envelope.result Session.Texts.done (ToolOutput.ofResult result).document =
      ⟨.result, Session.Texts.done, payload⟩ ↔
      (if (ToolOutput.ofResult result).document.isNull then none else some (ToolOutput.ofResult result).document) =
        payload := by
    simp [Envelope.result]
  rw [delivered]
  cases result with
  | text written =>
    rw [ToolOutput.ofResult, jsonText_shown]
    exact rendered_text
  | _ =>
    constructor
    · rintro ⟨⟩
      rfl
    · rintro rfl
      constructor

theorem status_exact {status : Nat} : Http.Status.isError status = true ↔ 400 ≤ status ∧ status ≤ 599 := by
  simp [Http.Status.isError, Http.Status.isClientError, Http.Status.isServerError]
  omega

theorem document?_canonical (read : answer.document? = some document) : document.Canonical := by
  obtain ⟨text, _, parsed⟩ := Option.bind_eq_some_iff.mp read
  exact (Json.parseChars?_canonical parsed).1

theorem executed_error (failure : BackendError) : Session.executed (.error failure) = failed failure.message := by
  have joined : Session.Texts.failedMark ++ ("Execution failed: " ++ failure.message) =
      "❌ Execution failed: " ++ failure.message := by
    rw [← String.append_assoc]
    rfl
  exact congrArg Envelope.error joined

theorem executed_ok (result : Json) (sound : result.get? "isError" ≠ some (.bool true)) :
    Session.executed (outcome result) = Envelope.result Session.Texts.done (ToolOutput.ofResult result).document := by
  rw [outcome, failure?_none.mpr sound]
  rfl

theorem executed_failed {result : Json} (explained : Explained result t) :
    Session.executed (outcome result) = failed t := by
  rw [outcome, failure?_exact.mpr explained]
  exact executed_error (.toolFailed t)

theorem passes_written {status : Nat} {content refusal defect : String} (accepted : ¬ (400 ≤ status ∧ status ≤ 599))
    (carries : Http.Status.bodiless status = false) (read : Json.parse? content = some document) :
    Passes ⟨status, content.toUTF8, true, refusal, defect⟩ document where
  accepted := accepted
  read := by
    have text : (⟨status, content.toUTF8, true, refusal, defect⟩ : Http.Answer).text? = some content := by
      rw [Http.Answer.text?, if_neg (Bool.eq_false_iff.mp carries), if_pos rfl]
      exact Socket.fromUTF8?_toUTF8 content
    rw [Http.Answer.document?, text, Option.bind_some, read]

theorem judge_passed (call : Call) (passes : Passes answer document) :
    call.judge (.answered answer) = call.result document := by
  have accepted : Http.Status.isError answer.status = false := by
    rw [Bool.eq_false_iff, ne_eq, status_exact]
    exact passes.accepted
  simp [Call.judge, accepted, passes.read]

theorem result_reported (action : Action) (present : document.get? "error" = some error) :
    (invocation action).result document = .error (reported error) := by
  rw [Call.result, present]

theorem result_given (action : Action) (clean : document.get? "error" = none) :
    (invocation action).result document = ((document.get? "result").map Except.ok).getD
      (.error (.decode "missing result in tools/call")) := by
  rw [Call.result, clean]
  cases document.get? "result" <;> rfl

theorem delivers_sound (action : Action) {exchange : Http.Exchange} (delivers : Delivers exchange e) :
    Session.executed (((invocation action).judge exchange).bind outcome) = e := by
  cases delivers with
  | unreached => exact executed_error (.transport _)
  | refused low high =>
    rw [Call.judge, if_pos (status_exact.mpr ⟨low, high⟩)]
    exact executed_error (.transport _)
  | undecoded accepted unread =>
    rw [Call.judge, if_neg (mt status_exact.mp accepted)]
    simp only [unread]
    exact executed_error (.decode _)
  | reported passes present code message =>
    have canonical := Json.canonical_get? (document?_canonical passes.read) present
    rw [judge_passed (invocation action) passes, result_reported action present, reported, (coded_exact canonical).mp code,
      worded_exact.mp message]
    exact executed_error (.rpc _ _)
  | missing passes clean absent =>
    rw [judge_passed (invocation action) passes, result_given action clean, absent]
    exact executed_error (.decode "missing result in tools/call")
  | toolFailed passes clean present explained =>
    rw [judge_passed (invocation action) passes, result_given action clean, present]
    exact executed_failed explained
  | done passes clean present sound rendered =>
    rw [judge_passed (invocation action) passes, result_given action clean, present]
    exact (executed_ok _ sound).trans (rendered_exact.mp rendered)

theorem delivers_complete (action : Action) (exchange : Http.Exchange) :
    Delivers exchange (Session.executed (((invocation action).judge exchange).bind outcome)) := by
  -- An envelope that some rule allows is the one that was computed.
  have by_rule (e : Envelope) (delivers : Delivers exchange e) :
      Delivers exchange (Session.executed (((invocation action).judge exchange).bind outcome)) := by
    rw [delivers_sound action delivers]
    exact delivers
  cases exchange with
  | failed reason => exact by_rule _ .unreached
  | answered answer =>
    by_cases accepted : 400 ≤ answer.status ∧ answer.status ≤ 599
    · exact by_rule _ (.refused accepted.1 accepted.2)
    cases read : answer.document? with
    | none => exact by_rule _ (.undecoded accepted read)
    | some document =>
      have passes : Passes answer document := ⟨accepted, read⟩
      cases errs : document.get? "error" with
      | some error =>
        have canonical := Json.canonical_get? (document?_canonical read) errs
        exact by_rule _ (.reported passes errs ((coded_exact canonical).mpr rfl) (worded_exact.mpr rfl))
      | none =>
        cases present : document.get? "result" with
        | none => exact by_rule _ (.missing passes errs present)
        | some result =>
          cases failure : ToolOutput.failure? result with
          | some t => exact by_rule _ (.toolFailed passes errs present (failure?_exact.mp failure))
          | none => exact by_rule _ (.done passes errs present (failure?_none.mp failure) (rendered_exact.mpr rfl))

end

end Rpc

namespace Remote

section
variable {remote : Remote} {id raw text : String} {s : Session} {action : Action}

theorem receive_approved (shown : s.pending = some action) (heard : UserMessage.userText raw = .ok text)
    (yes : Reply.classify text = .confirm) :
    s.receive raw = ({s with pending := none, call := some (.tool action)}, [.bot Session.Texts.executing]) := by
  simp only [Session.receive, heard, shown, Session.settle, yes]

theorem handle_approved (network : Http.Network) (idle : s.call = none) (shown : s.pending = some action)
    (heard : UserMessage.userText raw = .ok text) (yes : Reply.classify text = .confirm) :
    remote.handle network id s raw = ({s with pending := none},
      [.bot Session.Texts.executing, Session.executed (Rpc.invoke network remote.backend id action)]) := by
  obtain ⟨catalog, pending, call⟩ := s
  cases idle
  simp only [handle, receive_approved shown heard yes]
  rfl

end

namespace NullError

def address : String := "http://t/"
def url : Url := ⟨"http", none, some (.name "t"), none, .segments [""], none, none⟩
def content : String := "\x7b\"error\":null,\"result\":1\x7d"
def network : Http.Network := fun _ => [.answered ⟨200, content.toUTF8, true, "", ""⟩]
def remote : Remote := ⟨address, ⟨"", "", "", .nan, false, 0, ⟨fun _ => .error "", fun _ => .error ""⟩⟩⟩
def action : Action := ⟨"t", []⟩
def session : Session := ⟨[], some action, none⟩
def yes : String := "[\"user\",\"yes\"]"
def document : Json := .object [("error", .null), ("result", .whole 1)]

theorem heard : UserMessage.userText yes = .ok "yes" := by cbv

theorem target : Http.target address = .ok url := by
  have named : (Http.target address).toOption = some url := by decide +kernel
  cases found : Http.target address with
  | error reason => rw [found] at named; cases named
  | ok other => rw [found] at named; rw [Option.some.inj named]

theorem passes : Rpc.Passes ⟨200, content.toUTF8, true, "", ""⟩ document :=
  Rpc.passes_written (by decide) rfl (by cbv)

theorem present : document.get? "error" = some .null := rfl

end NullError

end Remote
end ToolGateway
