import ToolGateway.Json.Record
import ToolGateway.Proofs.Json.RoundTrip

namespace ToolGateway.Json

def keys? (raw : String) : Option (List String) :=
  match Tree.ofChars? raw.toList with
  | some (.object members) => (keyed? members).map fun given => given.map Prod.fst
  | _ => none

theorem word?_pieces (s : String) : (Tree.text (pieces s)).word? = some s := textOf?_pieces s

theorem text?_pieces (s : String) : (Tree.text (pieces s)).text? = some s := textOf?_pieces s

theorem mapM_exact {α β : Type} {read : α → Option β} {items : List α} {values : List β} :
    items.mapM read = some values ↔ List.Forall₂ (fun item value => read item = some value) items values := by
  induction items generalizing values with
  | nil => simp [eq_comm]
  | cons item rest ih =>
    rw [List.mapM_cons, List.forall₂_cons_left_iff]
    simp only [← ih]
    cases read item <;> cases rest.mapM read <;> simp [eq_comm]

theorem keyed?_memberTrees (members : Members) :
    keyed? (memberTrees members) = some (members.map fun m => (m.1, m.2.tree)) := by
  induction members with
  | nil => rfl
  | cons m rest ih =>
    obtain ⟨key, v⟩ := m
    rw [keyed?] at ih
    rw [memberTrees, keyed?, List.mapM_cons, ih]
    simp only [textOf?_pieces]
    rfl

theorem keys?_object (members : Members) : keys? (compact (.object members)) = some (members.map Prod.fst) := by
  rw [keys?, ofChars?_compact, tree]
  simp only [keyed?_memberTrees, Option.map_some, List.map_map]
  rfl

theorem fields?_object (fields : List Field) (members : Members) :
    (Json.object members).tree.fields? fields =
      fields.mapM fun field => field.unique? (members.map fun m => (m.1, m.2.tree)) := by
  rw [tree, Tree.fields?, keyed?_memberTrees, Option.bind_some]

end ToolGateway.Json
