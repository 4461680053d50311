import SqlPipeline.Proofs.Batch.Binding

/-!
The main statements of batches. A batch of several statements has each of them as it is bound, and
the first that cannot be bound is what the batch fails by. The batch of one statement that gives no
row by key has no main statement but its own.
-/

namespace SqlPipeline
namespace Batch

variable {parameters : Parameters} {failure : Failure} {operation : Text -> Sql.Operation}

/-- A statement is bound to what is sent for it. -/
def IsBoundTo (parameters : Parameters) (statement : Text) (sent : Wire.Statement) : Prop :=
  bind statement parameters = .ok sent

theorem bind_each_built {statements : List Text} {sents : List Wire.Statement}
    (each : List.Forall₂ (IsBoundTo parameters) statements sents) :
    ∃ entries, bindEach parameters statements (statements.map operation) = .ok entries ∧
      (entries.filter fun entry => entry.role = .main).map BatchEntry.request =
        sents.map .execute := by
  induction each with
  | nil => exact ⟨[], rfl, rfl⟩
  | @cons statement sent statements sents own others ih =>
      obtain ⟨entries, built, requests⟩ := ih
      refine ⟨execute sent .main (operation statement) :: entries, ?_, ?_⟩
      · rw [List.map_cons, bindEach, own, Outcome.ok_bind, built]
        rfl
      · rw [List.filter_cons_of_pos rfl, List.map_cons, requests]
        rfl

theorem bind_each_fails {earlier : List Text} {sents : List Wire.Statement} {statement : Text}
    (each : List.Forall₂ (IsBoundTo parameters) earlier sents)
    (refused : bind statement parameters = .error failure) (later : List Text) :
    bindEach parameters (earlier ++ statement :: later)
      ((earlier ++ statement :: later).map operation) = .error failure := by
  induction each with
  | nil =>
      rw [List.nil_append, List.map_cons, bindEach, refused]
      rfl
  | cons own others ih =>
      rw [List.cons_append, List.map_cons, bindEach, own, Outcome.ok_bind, ih]
      rfl

theorem of_statements_built {statements : List Text} {sents : List Wire.Statement}
    (each : List.Forall₂ (IsBoundTo parameters) statements sents) (sql? : Option Text) :
    ∃ batch, ofStatements statements (statements.map operation) parameters sql? true = .ok batch ∧
      batch.requestsOf .main = sents.map .execute := by
  obtain ⟨entries, built, requests⟩ := bind_each_built each
  refine ⟨⟨sql?.getD (List.intercalate [' '] statements), entries ++ [closing], .null, .null⟩, ?_, ?_⟩
  · rw [ofStatements, built]
    rfl
  · have closes : [closing].filter (fun entry => entry.role = .main) = [] := rfl
    rw [requestsOf, List.filter_append, closes, List.append_nil, requests]

theorem of_statements_fails {earlier : List Text} {sents : List Wire.Statement} {statement : Text}
    (each : List.Forall₂ (IsBoundTo parameters) earlier sents)
    (refused : bind statement parameters = .error failure) (later : List Text)
    (sql? : Option Text) :
    ofStatements (earlier ++ statement :: later) ((earlier ++ statement :: later).map operation)
      parameters sql? true = .error failure := by
  rw [ofStatements, bind_each_fails each refused]
  rfl

/-- A modification that gives no row by key is sent with no check, at most with a count. -/
theorem of_unkeyed_built {sql : Text} {sent : Wire.Statement}
    (keyless : Sql.KeyPredicate.find? sql = none) (bound : bind sql parameters = .ok sent)
    (operation : Sql.Operation) :
    ∃ batch, ofModification operation sql parameters = .ok batch ∧
      batch.requestsOf .main = [.execute sent] := by
  have unnamed : keyedRow? sql parameters = none := by
    rw [keyedRow?, keyless]
    rfl
  rw [ofModification, bound, Outcome.ok_bind]
  cases modifiedTable? operation sql with
  | none => exact ⟨_, rfl, rfl⟩
  | some table =>
      rw [unnamed]
      exact ⟨_, rfl, rfl⟩

theorem of_modification_fails {sql : Text} (refused : bind sql parameters = .error failure)
    (operation : Sql.Operation) : ofModification operation sql parameters = .error failure := by
  rw [ofModification, refused]
  rfl

end Batch
end SqlPipeline
