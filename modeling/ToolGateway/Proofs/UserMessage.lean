import ToolGateway.Proofs.Json.Parsing
import ToolGateway.Proofs.Json.Record
import ToolGateway.UserMessage

namespace ToolGateway

namespace Json

structure Sole (given : List (String × Tree)) (key : String) (t : Tree) : Prop where
  present : (key, t) ∈ given
  once : (given.map Prod.fst).count key = 1

def Keyed (members : List (Name × Tree)) (given : List (String × Tree)) : Prop :=
  List.Forall₂ (fun written read => Unescaped written.1 read.1.toList ∧ written.2 = read.2) members given

section
variable {members : List (Name × Tree)} {given : List (String × Tree)} {key : String} {t : Tree}

theorem keyed?_exact : keyed? members = some given ↔ Keyed members given := by
  have step (written : Name × Tree) (read : String × Tree) :
      (textOf? written.1).map (fun key => (key, written.2)) = some read ↔
        Unescaped written.1 read.1.toList ∧ written.2 = read.2 := by
    obtain ⟨key, t⟩ := read
    simp [← textOf?_exact]
  rw [keyed?, mapM_exact, Keyed]
  simp only [step]

theorem filter_sole : (given.filter fun member => member.1 == key) = [(key, t)] ↔ Sole given key t := by
  have counted : (given.map Prod.fst).count key = (given.filter fun member => member.1 == key).length := by
    rw [List.count, List.countP_map, List.countP_eq_length_filter]
    rfl
  constructor
  · intro alone
    have kept : (key, t) ∈ given.filter fun member => member.1 == key := by rw [alone]; simp
    exact ⟨(List.mem_filter.mp kept).1, by rw [counted, alone]; rfl⟩
  · intro sole
    obtain ⟨m, alone⟩ := List.length_eq_one_iff.mp (counted ▸ sole.once)
    have kept : (key, t) ∈ given.filter fun member => member.1 == key :=
      List.mem_filter.mpr ⟨sole.present, beq_self_eq_true key⟩
    rw [alone] at kept ⊢
    rw [List.mem_singleton.mp kept]

theorem unique?_exact : Field.unique? ⟨key, []⟩ given = some (some t) ↔ Sole given key t := by
  have named : (fun member : String × Tree => Field.named ⟨key, []⟩ member.1) = fun member => member.1 == key := by
    funext member
    simp [Field.named]
  rw [← filter_sole, Field.unique?, named]
  constructor
  · intro read
    split at read
    · cases read
    · rename_i other u alone
      have same : other = key := by
        have kept : (other, u) ∈ given.filter fun member => member.1 == key := by rw [alone]; simp
        exact beq_iff_eq.mp (List.mem_filter.mp kept).2
      cases read
      rw [alone, same]
    · cases read
  · intro alone
    rw [alone]

theorem tree_text?_exact {said : String} : t.text? = some said ↔ ∃ k, t = .text k ∧ Unescaped k said.toList := by
  cases t <;> simp [Tree.text?, textOf?_exact]

end

end Json

namespace UserMessage

inductive Frame (kind text : String) : Json.Tree → Prop where
  | object (keyed : Json.Keyed members given) (sort : Json.Sole given "type" (.text k))
      (body : Json.Sole given "text" (.text p)) (kindSaid : Json.Unescaped k kind.toList)
      (textSaid : Json.Unescaped p text.toList) : Frame kind text (.object members)
  | array (kindSaid : Json.Unescaped k kind.toList) (textSaid : Json.Unescaped p text.toList) :
      Frame kind text (.array [.text k, .text p])

def Says (kind text raw : String) : Prop := ∃ t, Json.Padded t raw.toList ∧ Frame kind text t

section
variable {raw kind text : String} {t sort body : Json.Tree} {items : List Json.Tree}
  {members : List (Json.Name × Json.Tree)}

theorem fields?_frame_object : (Json.Tree.object members).fields? fields = some [some sort, some body] ↔
    ∃ given, Json.Keyed members given ∧ Json.Sole given "type" sort ∧ Json.Sole given "text" body := by
  simp only [Json.Tree.fields?, fields, Option.bind_eq_some_iff, Json.keyed?_exact, Json.mapM_exact,
    List.forall₂_cons, List.forall₂_nil_left_iff, Json.unique?_exact, and_true]

theorem fields?_frame_array : (Json.Tree.array items).fields? fields = some [some sort, some body] ↔
    items = [sort, body] := by
  rcases items with _ | ⟨t, _ | ⟨u, _ | ⟨v, rest⟩⟩⟩ <;> simp [Json.Tree.fields?, fields]

theorem ofTree?_fields : ofTree? t = some ⟨kind, text⟩ ↔
    ∃ sort body, t.fields? fields = some [some sort, some body] ∧ sort.text? = some kind ∧ body.text? = some text := by
  rw [ofTree?]
  constructor
  · intro read
    split at read
    · rename_i sort body given
      cases said : sort.text? with
      | none => simp [said] at read
      | some k =>
        cases told : body.text? with
        | none => simp [said, told] at read
        | some p =>
          simp [said, told] at read
          exact ⟨sort, body, given, read.1 ▸ said, read.2 ▸ told⟩
    · cases read
  · rintro ⟨sort, body, given, said, told⟩
    simp only [given, said, told]
    rfl

theorem ofTree?_exact : ofTree? t = some ⟨kind, text⟩ ↔ Frame kind text t := by
  rw [ofTree?_fields]
  constructor
  · rintro ⟨sort, body, given, said, told⟩
    obtain ⟨k, rfl, kindSaid⟩ := Json.tree_text?_exact.mp said
    obtain ⟨p, rfl, textSaid⟩ := Json.tree_text?_exact.mp told
    cases t with
    | object members =>
      obtain ⟨listed, keyed, sole, other⟩ := fields?_frame_object.mp given
      exact .object keyed sole other kindSaid textSaid
    | array items =>
      cases fields?_frame_array.mp given
      exact .array kindSaid textSaid
    | _ => cases given
  · intro frame
    cases frame with
    | object keyed sole other kindSaid textSaid =>
      exact ⟨_, _, fields?_frame_object.mpr ⟨_, keyed, sole, other⟩, Json.tree_text?_exact.mpr ⟨_, rfl, kindSaid⟩,
        Json.tree_text?_exact.mpr ⟨_, rfl, textSaid⟩⟩
    | array kindSaid textSaid =>
      exact ⟨_, _, fields?_frame_array.mpr rfl, Json.tree_text?_exact.mpr ⟨_, rfl, kindSaid⟩,
        Json.tree_text?_exact.mpr ⟨_, rfl, textSaid⟩⟩

theorem decode?_exact : decode? raw = some ⟨kind, text⟩ ↔ Says kind text raw := by
  simp only [decode?, Option.bind_eq_some_iff, Json.ofChars?_exact, ofTree?_exact, Says]

theorem userText_ok : userText raw = .ok text ↔ decode? raw = some ⟨userKind, text⟩ := by
  rw [userText]
  split
  · rename_i unread
    simp [unread]
  · rename_i message read
    obtain ⟨kind, said⟩ := message
    by_cases user : kind = userKind <;> simp [read, user]

theorem userText_unsupported : userText raw = .error (.unsupportedType kind) ↔
    kind ≠ userKind ∧ ∃ text, decode? raw = some ⟨kind, text⟩ := by
  rw [userText]
  split
  · rename_i unread
    simp [unread]
  · rename_i message read
    obtain ⟨other, said⟩ := message
    by_cases user : other = userKind <;> simp [read, user] <;> grind

theorem userText_malformed : (∃ reason, userText raw = .error (.malformedInput reason)) ↔ decode? raw = none := by
  rw [userText]
  split
  · rename_i unread
    simp [unread]
  · rename_i message read
    by_cases user : message.kind = userKind <;> simp [read, user]

-- The two orders in which an object may write a user's text.
theorem decode?_compact (text : String) :
    decode? (Json.compact (.object [("type", .text userKind), ("text", .text text)])) = some ⟨userKind, text⟩ ∧
    decode? (Json.compact (.object [("text", .text text), ("type", .text userKind)])) = some ⟨userKind, text⟩ := by
  have written (members : Json.Members) :
      decode? (Json.compact (.object members)) = ofTree? (Json.object members).tree := by
    rw [decode?, Json.ofChars?_compact]
    rfl
  constructor <;>
    · rw [written, ofTree?_fields]
      refine ⟨(Json.text userKind).tree, (Json.text text).tree, ?_,
        Json.textOf?_pieces userKind, Json.textOf?_pieces text⟩
      rw [Json.fields?_object]
      simp [fields, Json.Field.unique?, Json.Field.named]

theorem frame_grammar_exact (raw : String) :
    (∀ text, userText raw = .ok text ↔ Says "user" text raw) ∧
    (∀ kind, userText raw = .error (.unsupportedType kind) ↔ kind ≠ "user" ∧ ∃ text, Says kind text raw) ∧
    ((∃ reason, userText raw = .error (.malformedInput reason)) ↔ ∀ kind text, ¬ Says kind text raw) ∧
    (∀ text, userText (Json.compact (.object [("type", .text "user"), ("text", .text text)])) = .ok text) ∧
    ∀ text, userText (Json.compact (.object [("text", .text text), ("type", .text "user")])) = .ok text := by
  refine ⟨fun text => ?_, fun kind => ?_, ?_, fun text => ?_, fun text => ?_⟩
  · rw [userText_ok, decode?_exact]
    rfl
  · simp only [userText_unsupported, decode?_exact]
    rfl
  · rw [userText_malformed]
    simp only [← decode?_exact]
    exact ⟨fun unread kind text read => by simp [unread] at read,
      fun silent => Option.eq_none_iff_forall_ne_some.mpr fun message => silent message.kind message.text⟩
  · exact userText_ok.mpr (decode?_compact text).1
  · exact userText_ok.mpr (decode?_compact text).2

end

end UserMessage
end ToolGateway
