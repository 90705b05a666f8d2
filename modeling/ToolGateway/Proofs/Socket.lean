import ToolGateway.Proofs.Session.Disconnect
import ToolGateway.Socket

namespace ToolGateway.Socket

open Session (Run Runs framesTaken)

inductive Tells : Frame → String → Prop where
  | text : Tells (.text s) s
  | binary : Tells (.binary s.toUTF8) s

inductive Silent : Frame → Prop where
  | ping : Silent (.ping bytes)
  | pong : Silent (.pong bytes)
  | foreign (unwritten : ∀ s : String, s.toUTF8 ≠ bytes) : Silent (.binary bytes)

inductive Shuts : Frame → Prop where
  | close : Shuts .close
  | broken : Shuts .broken

inductive Brings : List Frame → List String → Prop where
  | done : Brings [] []
  | told (tells : Tells frame raw) (rest : Brings frames raws) : Brings (frame :: frames) (raw :: raws)
  | passed (silent : Silent frame) (rest : Brings frames raws) : Brings (frame :: frames) raws
  | shut (shuts : Shuts frame) : Brings (frame :: frames) []

section
variable {frame : Frame} {frames : List Frame} {raw s : String} {raws : List String} {bytes : ByteArray}

theorem fromUTF8?_exact : String.fromUTF8? bytes = some s ↔ s.toUTF8 = bytes := by
  constructor
  · intro read
    unfold String.fromUTF8? at read
    split at read
    · cases read
      rfl
    · cases read
  · rintro rfl
    exact fromUTF8?_toUTF8 s

theorem Tells.open (tells : Tells frame raw) : frame.isOpen = true ∧ frame.text? = some raw := by
  cases tells with
  | text => exact ⟨rfl, rfl⟩
  | binary => exact ⟨rfl, text?_binary_toUTF8 raw⟩

theorem Silent.open (silent : Silent frame) : frame.isOpen = true ∧ frame.text? = none := by
  cases silent with
  | ping | pong => exact ⟨rfl, rfl⟩
  | foreign unwritten =>
    have unread : String.fromUTF8? _ = none :=
      Option.eq_none_iff_forall_ne_some.mpr fun s read => unwritten s (fromUTF8?_exact.mp read)
    exact ⟨rfl, unread⟩

theorem Shuts.closed (shuts : Shuts frame) : frame.isOpen = false := by
  cases shuts <;> rfl

theorem frame_kinds (frame : Frame) : (∃ raw, Tells frame raw) ∨ Silent frame ∨ Shuts frame := by
  cases frame with
  | text s => exact .inl ⟨s, .text⟩
  | ping bytes => exact .inr (.inl .ping)
  | pong bytes => exact .inr (.inl .pong)
  | close => exact .inr (.inr .close)
  | broken => exact .inr (.inr .broken)
  | binary bytes =>
    by_cases written : ∃ s : String, s.toUTF8 = bytes
    · obtain ⟨s, rfl⟩ := written
      exact .inl ⟨s, .binary⟩
    · exact .inr (.inl (.foreign fun s same => written ⟨s, same⟩))

theorem texts_told (tells : Tells frame raw) (frames : List Frame) : texts (frame :: frames) = raw :: texts frames := by
  rw [texts, List.takeWhile_cons_of_pos tells.open.1, List.filterMap_cons_some tells.open.2]
  rfl

theorem texts_passed (silent : Silent frame) (frames : List Frame) : texts (frame :: frames) = texts frames := by
  rw [texts, List.takeWhile_cons_of_pos silent.open.1, List.filterMap_cons_none silent.open.2]
  rfl

theorem texts_shut (shuts : Shuts frame) (frames : List Frame) : texts (frame :: frames) = [] := by
  rw [texts, List.takeWhile_cons_of_neg (by simp [shuts.closed])]
  rfl

theorem texts_exact : texts frames = raws ↔ Brings frames raws := by
  constructor
  · rintro rfl
    induction frames with
    | nil => exact .done
    | cons frame frames ih =>
      rcases frame_kinds frame with ⟨raw, tells⟩ | silent | shuts
      · exact texts_told tells frames ▸ .told tells ih
      · exact texts_passed silent frames ▸ .passed silent ih
      · exact texts_shut shuts frames ▸ .shut shuts
  · intro brings
    induction brings with
    | done => rfl
    | told tells _ ih => rw [texts_told tells, ih]
    | passed silent _ ih => rw [texts_passed silent, ih]
    | shut shuts => exact texts_shut shuts _

-- What a frame in the middle contributes is decided by itself and by what comes before it.
theorem texts_congr {one two : List Frame} (same : texts one = texts two) (front : List Frame) :
    texts (front ++ one) = texts (front ++ two) := by
  induction front with
  | nil => exact same
  | cons frame front ih =>
    rw [List.cons_append, List.cons_append]
    rcases frame_kinds frame with ⟨raw, tells⟩ | silent | shuts
    · rw [texts_told tells, texts_told tells, ih]
    · rw [texts_passed silent, texts_passed silent, ih]
    · rw [texts_shut shuts, texts_shut shuts]

end

structure Channel where
  run : Run
  shut : Bool

def Channel.take (channel : Channel) (frame : Frame) : Channel :=
  if channel.shut then channel
  else if frame.isOpen then
    match frame.text? with
    | some raw => {channel with run := channel.run.turn .never raw}
    | none => channel
  else {channel with shut := true}

section
variable {listing : Except BackendError (List Json)} {service : Service} {first run : Run} {frame : Frame}
  {raw : String}

theorem take_shut (frames : List Frame) : frames.foldl Channel.take ⟨run, true⟩ = ⟨run, true⟩ := by
  induction frames with
  | nil => rfl
  | cons frame frames ih => exact ih

theorem take_texts (frames : List Frame) :
    (frames.foldl Channel.take ⟨run, false⟩).run = run.turns .never (texts frames) := by
  induction frames generalizing run with
  | nil => rfl
  | cons frame frames ih =>
    rw [List.foldl_cons]
    rcases frame_kinds frame with ⟨raw, tells⟩ | silent | shuts
    · have taken : Channel.take ⟨run, false⟩ frame = ⟨run.turn .never raw, false⟩ := by
        simp [Channel.take, tells.open]
      rw [taken, ih, texts_told tells]
      rfl
    · have taken : Channel.take ⟨run, false⟩ frame = ⟨run, false⟩ := by simp [Channel.take, silent.open]
      rw [taken, ih, texts_passed silent]
    · have taken : Channel.take ⟨run, false⟩ frame = ⟨run, true⟩ := by simp [Channel.take, shuts.closed]
      rw [taken, take_shut, texts_shut shuts]
      rfl

-- Once the session has started, its channel is the run over the texts that the frames bring, handled one by one.
theorem visit_refines (started : Run.start listing service = .ok first) (frames : List Frame) :
    (∃ raws last trace, (∀ others, Brings frames others ↔ others = raws) ∧
      visit listing service frames = .ok last ∧ last = first.frames .never raws ∧
      last = (frames.foldl Channel.take ⟨first, false⟩).run ∧
      Runs listing (.sent (.bot Session.Texts.greeting) :: trace) last.session ∧
      Run.Traced first trace last ∧ framesTaken trace = raws ∧
      last.received = .bot Session.Texts.greeting :: Session.envelopes trace ∧ last.session.call = none) ∧
    (∀ front back s, visit listing service (front ++ .binary (String.toUTF8 s) :: back) =
      visit listing service (front ++ .text s :: back)) ∧
    (∀ front frame back, Silent frame →
      visit listing service (front ++ frame :: back) = visit listing service (front ++ back)) ∧
    ∀ front frame back, Shuts frame → visit listing service (front ++ frame :: back) = visit listing service front := by
  have visited (frames : List Frame) : visit listing service frames = .ok (first.frames .never (texts frames)) := by
    rw [visit, started]
  obtain ⟨opened, there, idle, greeted⟩ := Run.started_parts started
  refine ⟨?_, fun front back s => ?_, fun front frame back silent => ?_, fun front frame back shuts => ?_⟩
  · have whole := Run.frames_never there (texts frames)
    obtain ⟨trace, traced, took, free⟩ := Run.turns_traced .never idle (texts frames)
    rw [← whole] at traced free
    have stays : (first.frames .never (texts frames)).connected = true := by
      rw [whole]
      exact ((Run.behind_refl there).turns .never _).there
    refine ⟨texts frames, _, trace, fun others => texts_exact.symm.trans eq_comm, visited frames, rfl, ?_,
      ⟨_, _, trace, opened, traced.path, by rw [greeted]; rfl⟩, traced, took, ?_, free⟩
    · rw [take_texts, whole]
    · rw [traced.received stays, greeted]
      rfl
  · have same : texts (.binary s.toUTF8 :: back) = texts (.text s :: back) := by
      rw [texts_told .binary, texts_told .text]
    rw [visited, visited, texts_congr same front]
  · rw [visited, visited, texts_congr (texts_passed silent back) front]
  · have same : texts (frame :: back) = texts [] := texts_shut shuts back
    rw [visited, visited, texts_congr same front, List.append_nil]

end

namespace Mixed

def service : Service := Service.fresh [] []
def first : Run := ⟨⟨[], none, none⟩, service, true, [.bot Session.Texts.greeting], 0⟩

end Mixed

theorem visit_refines_mixed :
    Run.start (.ok []) Mixed.service = .ok Mixed.first ∧
      visit (.ok []) Mixed.service [.text "a", .ping .empty, .binary "b".toUTF8, .close, .text "c"] =
        visit (.ok []) Mixed.service [.text "a", .text "b"] := by
  have started : Run.start (.ok []) Mixed.service = .ok Mixed.first := rfl
  obtain ⟨_, binary, silent, shuts⟩ := visit_refines started []
  refine ⟨started, ?_⟩
  calc visit (.ok []) Mixed.service [.text "a", .ping .empty, .binary "b".toUTF8, .close, .text "c"]
      = visit (.ok []) Mixed.service [.text "a", .ping .empty, .binary "b".toUTF8] := shuts [_, _, _] _ _ .close
    _ = visit (.ok []) Mixed.service [.text "a", .binary "b".toUTF8] := silent [_] _ _ .ping
    _ = visit (.ok []) Mixed.service [.text "a", .text "b"] := binary [_] [] "b"

end ToolGateway.Socket
