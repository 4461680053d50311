import Mathlib.Data.List.Forall2
import SqlPipeline.Proofs.Json.Short
import SqlPipeline.Wire.Response

/-!
Responses that come of documents. Their cells are parts of the document, so that they hold no bytes
and no integer that cannot be written.
-/

namespace SqlPipeline
namespace Wire

open Json (Node)

/-- A cell that a document has. -/
def IsReceived (cell : Value) : Prop :=
  ∃ node : Node, node.IsShort ∧ node.toValue = cell

/-- A value of a document, with integers of any length. -/
def IsJson (value : Value) : Prop :=
  ∃ node : Node, node.toValue = value

theorem IsReceived.json {value : Value} (received : IsReceived value) : IsJson value := by
  obtain ⟨node, -, shown⟩ := received
  exact ⟨node, shown⟩

/-- A result whose cells all come of a document. -/
def StatementResult.IsReceived (result : StatementResult) : Prop :=
  ∀ row ∈ result.rows, ∀ cell ∈ row, Wire.IsReceived cell

section

variable {α : Type} {read : Node -> Option α} {P : α -> Prop} {members : List (Text × Node)}
  {name : Text}

/-- What holds of all that is read of a part holds of an optional member. -/
theorem optional_holds (reads : ∀ node : Node, node.IsShort -> ∀ x, read node = some x -> P x)
    (short : ∀ member ∈ members, member.2.IsShort) {x : α}
    (found : optional? read name members = some (some x)) : P x := by
  unfold optional? at found
  split at found
  · cases found
  · cases found
  · rename_i node _ named
    obtain ⟨own, readOwn, same⟩ := Option.map_eq_some_iff.mp found
    cases same
    exact reads node (Json.lookup_short short named) _ readOwn

theorem default_holds (reads : ∀ node : Node, node.IsShort -> ∀ x, read node = some x -> P x)
    (short : ∀ member ∈ members, member.2.IsShort) {default x : α} (base : P default)
    (found : orDefault? read default name members = some x) : P x := by
  unfold orDefault? at found
  split at found
  · cases found
    exact base
  · rename_i node named
    exact reads node (Json.lookup_short short named) x found

/-- All nodes of a list are read exactly when each has its own result. -/
theorem all_read_iff {nodes : List Node} {results : List α} :
    nodes.mapM read = some results ↔
      List.Forall₂ (fun node result => read node = some result) nodes results := by
  induction nodes generalizing results with
  | nil =>
      rw [List.mapM_nil, List.forall₂_nil_left_iff]
      exact ⟨fun same => (Option.some.inj same).symm, fun empty => congrArg some empty.symm⟩
  | cons node rest ih =>
      rw [List.mapM_cons, List.forall₂_cons_left_iff]
      constructor
      · intro run
        obtain ⟨first, own, ran⟩ := Option.bind_eq_some_iff.mp run
        obtain ⟨later, others, same⟩ := Option.bind_eq_some_iff.mp ran
        cases same
        exact ⟨first, later, own, ih.mp others, rfl⟩
      · rintro ⟨first, later, own, others, rfl⟩
        rw [own, ih.mpr others]
        rfl

theorem map_holds (reads : ∀ node : Node, node.IsShort -> ∀ x, read node = some x -> P x)
    {nodes : List Node} (short : ∀ node ∈ nodes, node.IsShort) {results : List α}
    (found : nodes.mapM read = some results) : ∀ x ∈ results, P x := by
  have each := all_read_iff.mp found
  induction each with
  | nil => exact List.forall_mem_nil _
  | cons own later ih =>
      obtain ⟨head, tail⟩ := List.forall_mem_cons.mp short
      exact List.forall_mem_cons.mpr ⟨reads _ head _ own, ih tail (all_read_iff.mpr later)⟩

theorem list_holds (reads : ∀ node : Node, node.IsShort -> ∀ x, read node = some x -> P x)
    {node : Node} (short : node.IsShort) {results : List α}
    (found : listOf? read node = some results) : ∀ x ∈ results, P x := by
  obtain ⟨nodes, listed, ran⟩ := Option.bind_eq_some_iff.mp found
  cases short with
  | array each =>
      cases listed
      exact map_holds reads each ran
  | _ => cases listed

end

theorem row_received {node : Node} (short : node.IsShort) {row : List Value}
    (found : rowOf? node = some row) : ∀ cell ∈ row, IsReceived cell := by
  obtain ⟨nodes, listed, same⟩ := Option.map_eq_some_iff.mp found
  cases short with
  | array each =>
      cases listed
      cases same
      intro cell member
      obtain ⟨part, own, shown⟩ := List.mem_map.mp member
      exact ⟨part, each part own, shown⟩
  | _ => cases listed

theorem result_received {node : Node} (short : node.IsShort) {result : StatementResult}
    (found : resultOf? node = some result) : result.IsReceived := by
  cases short with
  | object each =>
      rw [resultOf?] at found
      obtain ⟨columns, -, afterColumns⟩ := Option.bind_eq_some_iff.mp found
      obtain ⟨rows, read, afterRows⟩ := Option.bind_eq_some_iff.mp afterColumns
      obtain ⟨affected, -, afterAffected⟩ := Option.bind_eq_some_iff.mp afterRows
      obtain ⟨rowId?, -, same⟩ := Option.bind_eq_some_iff.mp afterAffected
      cases same
      have empty : ∀ row ∈ ([] : List (List Value)), ∀ cell ∈ row, IsReceived cell :=
        List.forall_mem_nil _
      have listed (node : Node) (short : node.IsShort) (rows : List (List Value))
          (found : listOf? rowOf? node = some rows) : ∀ row ∈ rows, ∀ cell ∈ row, IsReceived cell :=
        list_holds (fun _ part row own => row_received part own) short found
      exact default_holds (P := fun rows => ∀ row ∈ rows, ∀ cell ∈ row, IsReceived cell) listed each
        empty read
  | _ => cases found

theorem stream_received {node : Node} (short : node.IsShort) {response : StreamResponse}
    (found : streamResponseOf? node = some response) :
    ∀ result, response.result? = some result -> result.IsReceived := by
  cases short with
  | object each =>
      rw [streamResponseOf?] at found
      obtain ⟨type, -, afterType⟩ := Option.bind_eq_some_iff.mp found
      obtain ⟨result?, read, same⟩ := Option.bind_eq_some_iff.mp afterType
      cases same
      rintro result (rfl : result? = some result)
      exact optional_holds (fun _ part result own => result_received part own) each read
  | _ => cases found

/-- The result of an entry that was read comes of the document. -/
def ResponseEntry.IsReceived (entry : ResponseEntry) : Prop :=
  ∀ result, entry.result? = some result -> result.IsReceived

theorem entry_received {node : Node} (short : node.IsShort) {entry : ResponseEntry}
    (found : entryOf? node = some entry) : entry.IsReceived := by
  cases short with
  | object each =>
      rw [entryOf?] at found
      obtain ⟨type?, -, afterType⟩ := Option.bind_eq_some_iff.mp found
      obtain ⟨response?, read, afterResponse⟩ := Option.bind_eq_some_iff.mp afterType
      obtain ⟨error?, -, same⟩ := Option.bind_eq_some_iff.mp afterResponse
      cases same
      intro result executed
      obtain ⟨response, (rfl : response? = some response), rest⟩ :=
        Option.bind_eq_some_iff.mp executed
      have own : response.result? = some result := by
        by_cases execute : response.type = "execute".toList
        · rwa [if_pos execute] at rest
        · rw [if_neg execute] at rest
          cases rest
      exact optional_holds
        (P := fun response => ∀ result, response.result? = some result -> result.IsReceived)
        (fun _ part response found => stream_received part found) each read result own
  | _ => cases found

theorem response_received {document : Node} (short : document.IsShort) {response : Response}
    (found : Response.ofJson? document = some response) :
    ∀ entry ∈ response.entries, entry.IsReceived := by
  cases short with
  | object each =>
      rw [Response.ofJson?] at found
      obtain ⟨baton?, -, afterBaton⟩ := Option.bind_eq_some_iff.mp found
      obtain ⟨baseUrl?, -, afterUrl⟩ := Option.bind_eq_some_iff.mp afterBaton
      obtain ⟨entries, read, same⟩ := Option.bind_eq_some_iff.mp afterUrl
      cases same
      obtain ⟨node, named, listed⟩ := Option.bind_eq_some_iff.mp read
      exact list_holds (fun _ part entry own => entry_received part own)
        (Json.lookup_short each named) listed
  | _ => cases found

end Wire
end SqlPipeline
