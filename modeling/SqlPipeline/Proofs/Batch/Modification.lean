import SqlPipeline.Batch.Building
import SqlPipeline.Proofs.Outcome

/-!
The batches that a modification can be sent as. There are three: the statement alone when no table
is resolved for it, the statement with a count of its changes, and, when its row is given by key,
both of them behind a check that the row is there. Which one it is depends on the text and the
parameters only, and the role of a request settles where its answer is found.
-/

namespace SqlPipeline
namespace Batch

theorem index_of_eq (batch : Batch) (role : Role) :
    batch.indexOf? role = batch.roles.findIdx? fun played => played = role := by
  rw [roles, List.findIdx?_map]
  rfl

theorem role_of_index {batch : Batch} {role : Role} {index : Nat}
    (position : batch.indexOf? role = some index) : batch.roles[index]? = some role := by
  rw [index_of_eq, List.findIdx?_eq_some_iff_getElem] at position
  obtain ⟨inside, played, _⟩ := position
  rw [List.getElem?_eq_getElem inside, of_decide_eq_true played]

theorem index_of_iff {batch : Batch} (distinct : batch.roles.Nodup) {role : Role} {index : Nat} :
    batch.indexOf? role = some index ↔ batch.roles[index]? = some role := by
  constructor
  · exact role_of_index
  · intro played
    cases position : batch.indexOf? role with
    | none =>
        rw [index_of_eq, List.findIdx?_eq_none_iff] at position
        have differs := position role (List.mem_of_getElem? played)
        simp at differs
    | some first =>
        have inside := (List.getElem?_eq_some_iff.mp played).1
        have twice := played.trans (role_of_index position).symm
        rw [(List.getElem?_inj inside distinct).mp twice]

/-- The version that is expected of a keyed row, null when no token is bound. -/
def tokenValue (predicate : Sql.KeyPredicate) (parameters : Parameters) : Value :=
  match predicate.token?.bind fun token => parameters.find? token.placeholder with
  | some entry => entry.parameter.value
  | none => .null

/-- The row of a statement is given by a key that has a value. -/
inductive NamesRow (sql : Text) (parameters : Parameters) : Parameter -> Value -> Prop where
  | key (predicate : Sql.KeyPredicate) (entry : Entry)
      (found : Sql.KeyPredicate.find? sql = some predicate)
      (bound : parameters.find? predicate.key = some entry)
      (notNull : entry.parameter.value.isNull = false) :
      NamesRow sql parameters entry.parameter (tokenValue predicate parameters)

theorem keyed_row_eq {sql : Text} {parameters : Parameters} {predicate : Sql.KeyPredicate}
    {entry : Entry} (found : Sql.KeyPredicate.find? sql = some predicate)
    (bound : parameters.find? predicate.key = some entry) :
    keyedRow? sql parameters =
      if entry.parameter.value.isNull then none
      else some ⟨entry.parameter, tokenValue predicate parameters⟩ := by
  have version : ((predicate.token?.bind fun token => parameters.find? token.placeholder).map
      fun entry => entry.parameter.value).getD .null = tokenValue predicate parameters := by
    unfold tokenValue
    cases predicate.token?.bind fun token => parameters.find? token.placeholder with
    | none => rfl
    | some token => rfl
  simp only [keyedRow?, found, bound, Option.bind_eq_bind, Option.bind_some, version]

theorem keyed_row_iff {sql : Text} {parameters : Parameters} {row : KeyedRow} :
    keyedRow? sql parameters = some row ↔ NamesRow sql parameters row.key row.expectedVersion := by
  constructor
  · intro named
    obtain ⟨predicate, found, rest⟩ := Option.bind_eq_some_iff.mp named
    obtain ⟨entry, bound, _⟩ := Option.bind_eq_some_iff.mp rest
    rw [keyed_row_eq found bound] at named
    by_cases null : entry.parameter.value.isNull = true
    · rw [if_pos null] at named
      cases named
    · rw [if_neg null] at named
      cases named
      exact .key predicate entry found bound (eq_false_of_ne_true null)
  · intro names
    obtain ⟨key, version⟩ := row
    cases names with
    | key predicate entry found bound notNull =>
        rw [keyed_row_eq found bound, if_neg (by rw [notNull]; decide)]
        rfl

theorem no_row {sql : Text} {parameters : Parameters}
    (unkeyed : keyedRow? sql parameters = none) :
    ¬∃ key version, NamesRow sql parameters key version := by
  rintro ⟨key, version, names⟩
  have found : keyedRow? sql parameters = some ⟨key, version⟩ := keyed_row_iff.mpr names
  rw [unkeyed] at found
  cases found

/-- What a modification is sent as. -/
inductive Modification (operation : Sql.Operation) (sql : Text) (parameters : Parameters) :
    Batch -> Prop where
  | plain (statement : Wire.Statement) (bound : bind sql parameters = .ok statement)
      (unresolved : modifiedTable? operation sql = none) :
      Modification operation sql parameters
        ⟨sql, [execute statement .main operation, closing], .null, .null⟩
  | counted (statement : Wire.Statement) (table : Text) (bound : bind sql parameters = .ok statement)
      (resolved : modifiedTable? operation sql = some table)
      (unkeyed : keyedRow? sql parameters = none) :
      Modification operation sql parameters
        ⟨sql, [execute statement .main operation, changesEntry, closing], .null, .null⟩
  | keyed (statement : Wire.Statement) (table : Text) (row : KeyedRow) (argument : Wire.Argument)
      (bound : bind sql parameters = .ok statement)
      (resolved : modifiedTable? operation sql = some table)
      (found : keyedRow? sql parameters = some row) (encoded : row.key.encode = .ok argument) :
      Modification operation sql parameters
        ⟨sql, keyedEntries operation (execute statement .main operation) table argument,
          row.key.value, row.expectedVersion⟩

theorem of_modification_iff {operation : Sql.Operation} {sql : Text} {parameters : Parameters}
    {batch : Batch} :
    ofModification operation sql parameters = .ok batch ↔
      Modification operation sql parameters batch := by
  constructor
  · intro built
    obtain ⟨statement, bound, rest⟩ := Outcome.bind_eq_ok.mp built
    cases resolved : modifiedTable? operation sql with
    | none =>
        rw [resolved] at rest
        cases rest
        exact .plain statement bound resolved
    | some table =>
        rw [resolved] at rest
        cases found : keyedRow? sql parameters with
        | none =>
            rw [found] at rest
            cases rest
            exact .counted statement table bound resolved found
        | some row =>
            rw [found] at rest
            obtain ⟨argument, encoded, made⟩ := Outcome.bind_eq_ok.mp rest
            cases made
            exact .keyed statement table row argument bound resolved found encoded
  · intro made
    cases made with
    | plain statement bound unresolved =>
        rw [ofModification, bound, Outcome.ok_bind, unresolved]
    | counted statement table bound resolved unkeyed =>
        rw [ofModification, bound, Outcome.ok_bind, resolved, unkeyed]
    | keyed statement table row argument bound resolved found encoded =>
        simp only [ofModification, bound, resolved, found, encoded, Outcome.ok_bind]

namespace Modification

variable {operation : Sql.Operation} {sql : Text} {parameters : Parameters} {batch : Batch}

theorem main_operation (made : Modification operation sql parameters batch) :
    batch.mainOperation = operation := by
  cases made <;> rfl

theorem sql_eq (made : Modification operation sql parameters batch) : batch.sql = sql := by
  cases made <;> rfl

/-- No role is played twice, so that it is a matter of the role where an answer is found. -/
theorem roles_distinct (made : Modification operation sql parameters batch) :
    batch.roles.Nodup := by
  cases made with
  | plain => simp [roles, execute, closing]
  | counted => simp [roles, execute, changesEntry, closing]
  | keyed statement table row argument bound resolved found encoded =>
      by_cases update : operation = .update
      · simp [roles, keyedEntries, refreshEntries, update, execute, changesEntry, closing]
      · simp [roles, keyedEntries, refreshEntries, update, execute, changesEntry, closing]

theorem is_keyed_iff (made : Modification operation sql parameters batch) :
    batch.isKeyed = true ↔ (modifiedTable? operation sql).isSome ∧
      ∃ key version, NamesRow sql parameters key version := by
  cases made with
  | plain statement bound unresolved =>
      have notKeyed : isKeyed ⟨sql, [execute statement .main operation, closing], .null, .null⟩ =
          false := rfl
      simp [notKeyed, unresolved]
  | counted statement table bound resolved unkeyed =>
      have notKeyed : isKeyed ⟨sql, [execute statement .main operation, changesEntry, closing],
          .null, .null⟩ = false := rfl
      simp [notKeyed, no_row unkeyed]
  | keyed statement table row argument bound resolved found encoded =>
      refine iff_of_true rfl ⟨by rw [resolved]; rfl, row.key, row.expectedVersion, ?_⟩
      exact keyed_row_iff.mp found

theorem modifies_of_keyed (made : Modification operation sql parameters batch)
    (keyed : batch.isKeyed = true) : operation.modifies = true := by
  obtain ⟨resolved, _⟩ := made.is_keyed_iff.mp keyed
  by_cases modifies : operation.modifies = true
  · exact modifies
  · rw [modifiedTable?, if_neg modifies] at resolved
    cases resolved

/-- A keyed batch remembers the row that its statement names. -/
theorem names_row (made : Modification operation sql parameters batch)
    (keyed : batch.isKeyed = true) :
    ∃ key, NamesRow sql parameters key batch.expectedVersion ∧ batch.key = key.value := by
  cases made with
  | plain => cases keyed
  | counted => cases keyed
  | keyed statement table row argument bound resolved found encoded =>
      exact ⟨row.key, keyed_row_iff.mp found, rfl⟩

end Modification

theorem modified_table_eq {operation : Sql.Operation} (modifies : operation.modifies = true)
    (sql : Text) : modifiedTable? operation sql = Sql.TableName.quoted? sql :=
  if_pos modifies

end Batch
end SqlPipeline
