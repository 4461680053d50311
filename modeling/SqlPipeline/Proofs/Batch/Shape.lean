import SqlPipeline.Proofs.Batch.Keyed

/-!
The shape of a modification. Its requests stand in one of four orders. Which one it is depends on
the operation, the table, the predicate and the value of the key; in each of them the changes are
counted directly behind the main statement, so that no other statement is counted, and the close is
last.
-/

namespace SqlPipeline
namespace Batch

def operations (batch : Batch) : List Sql.Operation :=
  batch.entries.map BatchEntry.operation

/-- The orders in which the requests of a modification can stand, by their roles. -/
def orders : List (List Role) :=
  [[.main, .close], [.main, .changes, .close], [.verify, .main, .changes, .close],
    [.verify, .main, .changes, .refresh, .close]]

/-- The key of a row is sent as the one argument of its check, and of its second reading if there is
one. -/
structure Checks (operation : Sql.Operation) (sql : Text) (parameters : Parameters) (batch : Batch)
    (key : Parameter) (table : Text) (sent : Wire.Argument) : Prop where
  names : NamesRow sql parameters key batch.expectedVersion
  value : batch.key = key.value
  resolved : Sql.TableName.quoted? sql = some table
  encoded : key.encode = .ok sent
  check : batch.requestsOf .verify = [.execute ⟨countText table, [sent]⟩]
  refresh : batch.requestsOf .refresh =
    if operation = .update then [.execute ⟨rowText table, [sent]⟩] else []

/-- What the operation, the text and the parameters of a modification make of its batch. -/
structure IsShaped (operation : Sql.Operation) (sql : Text) (parameters : Parameters)
    (batch : Batch) : Prop where
  aligned : batch.requests.length = batch.roles.length ∧
    batch.operations.length = batch.roles.length
  ordered : batch.roles ∈ orders
  /-- Nothing is sent between the main statement and the count of its changes. -/
  counted : ∀ index : Nat, batch.roles[index]? = some .changes ->
    0 < index ∧ batch.roles[index - 1]? = some .main
  closed : batch.roles.getLast? = some .close
  plain : batch.roles = [.main, .close] ↔
    ¬(operation = .update ∨ operation = .delete) ∨ Sql.TableName.quoted? sql = none
  /-- A row is looked for when the table is known and the key has a value. -/
  checked : .verify ∈ batch.roles ↔
    ((operation = .update ∨ operation = .delete) ∧ Sql.TableName.quoted? sql ≠ none) ∧
      ∃ key version, NamesRow sql parameters key version
  keyed : batch.isKeyed = true ↔ .verify ∈ batch.roles
  valued : batch.key.isNull = false ↔ .verify ∈ batch.roles
  checks : .verify ∈ batch.roles ->
    ∃ key table sent, Checks operation sql parameters batch key table sent
  refreshed : .refresh ∈ batch.roles ↔ batch.isKeyed = true ∧ operation = .update
  versioned : batch.expectedVersion.isNull = false -> batch.isKeyed = true
  performed : batch.mainOperation = operation
  main : ∃ statement, bind sql parameters = .ok statement ∧
    batch.requestsOf .main = [.execute statement]

section Decisions

variable {operation : Sql.Operation} {sql : Text} {parameters : Parameters}

theorem modifies_iff : operation.modifies = true ↔ operation = .update ∨ operation = .delete := by
  cases operation <;> decide

theorem modified_table_some {table : Text} :
    modifiedTable? operation sql = some table ↔
      (operation = .update ∨ operation = .delete) ∧ Sql.TableName.quoted? sql = some table := by
  rw [modifiedTable?, ← modifies_iff]
  by_cases modifies : operation.modifies = true
  · rw [if_pos modifies]
    exact (and_iff_right modifies).symm
  · rw [if_neg modifies]
    exact iff_of_false (Option.some_ne_none table).symm fun both => modifies both.1

theorem modified_table_none :
    modifiedTable? operation sql = none ↔
      ¬(operation = .update ∨ operation = .delete) ∨ Sql.TableName.quoted? sql = none := by
  rw [modifiedTable?, ← modifies_iff]
  by_cases modifies : operation.modifies = true
  · rw [if_pos modifies]
    exact ⟨.inr, fun either => either.resolve_left fun other => other modifies⟩
  · rw [if_neg modifies]
    exact iff_of_true rfl (.inl modifies)

/-- The key of a row has a value. -/
theorem NamesRow.value_not_null {key : Parameter} {version : Value}
    (names : NamesRow sql parameters key version) : key.value.isNull = false := by
  cases names with
  | key predicate entry found bound notNull => exact notNull

end Decisions

section Orders

variable {roles : List Role}

/-- The changes are those of the main statement, with nothing sent between the two. -/
theorem changes_behind_main (ordered : roles ∈ orders) (index : Nat)
    (played : roles[index]? = some .changes) : 0 < index ∧ roles[index - 1]? = some .main := by
  have each : ∀ roles ∈ orders, ∀ index < roles.length, roles[index]? = some .changes ->
      0 < index ∧ roles[index - 1]? = some .main := by
    decide
  have inside : index < roles.length := (List.getElem?_eq_some_iff.mp played).1
  exact each roles ordered index inside played

theorem close_last (ordered : roles ∈ orders) : roles.getLast? = some .close := by
  have each : ∀ roles ∈ orders, roles.getLast? = some .close := by decide
  exact each roles ordered

end Orders

namespace Modification

variable {operation : Sql.Operation} {sql : Text} {parameters : Parameters} {batch : Batch}

/-- The roles of a modification, by what it is sent as. -/
theorem roles_eq (made : Modification operation sql parameters batch) :
    batch.roles =
      (if batch.isKeyed then [.verify] else []) ++ .main ::
        (if (modifiedTable? operation sql).isSome then [.changes] else []) ++
          (if batch.isKeyed ∧ operation = .update then [.refresh] else []) ++ [.close] := by
  cases made with
  | plain statement bound unresolved =>
      rw [unresolved]
      rfl
  | counted statement table bound resolved unkeyed =>
      rw [resolved]
      rfl
  | keyed statement table row argument bound resolved found encoded =>
      rw [resolved]
      by_cases update : operation = .update
      · rw [update]
        rfl
      · simp [roles, isKeyed, keyedEntries, refreshEntries, update, execute, changesEntry, closing]

theorem table_of_keyed (made : Modification operation sql parameters batch)
    (keyed : batch.isKeyed = true) : (modifiedTable? operation sql).isSome = true :=
  (made.is_keyed_iff.mp keyed).1

theorem roles_ordered (made : Modification operation sql parameters batch) :
    batch.roles ∈ orders := by
  rw [made.roles_eq]
  by_cases keyed : batch.isKeyed = true
  · rw [if_pos (made.table_of_keyed keyed)]
    by_cases update : operation = .update
    · simp [keyed, update, orders]
    · simp [keyed, update, orders]
  · by_cases table : (modifiedTable? operation sql).isSome = true
    · simp [keyed, table, orders]
    · simp [keyed, table, orders]

theorem roles_plain_iff (made : Modification operation sql parameters batch) :
    batch.roles = [.main, .close] ↔ modifiedTable? operation sql = none := by
  rw [made.roles_eq]
  cases table : modifiedTable? operation sql with
  | none =>
      have unkeyed : ¬batch.isKeyed = true := by
        intro keyed
        have resolved := made.table_of_keyed keyed
        rw [table] at resolved
        cases resolved
      simp [unkeyed]
  | some table =>
      by_cases keyed : batch.isKeyed = true
      · simp [keyed]
      · simp [keyed]

theorem refresh_iff (made : Modification operation sql parameters batch) :
    .refresh ∈ batch.roles ↔ batch.isKeyed = true ∧ operation = .update := by
  rw [made.roles_eq]
  simp

theorem key_valued_iff (made : Modification operation sql parameters batch) :
    batch.key.isNull = false ↔ batch.isKeyed = true := by
  cases made with
  | plain => exact iff_of_false nofun nofun
  | counted => exact iff_of_false nofun nofun
  | keyed statement table row argument bound resolved found encoded =>
      exact iff_of_true (keyed_row_iff.mp found).value_not_null rfl

theorem keyed_of_version (made : Modification operation sql parameters batch)
    (version : batch.expectedVersion.isNull = false) : batch.isKeyed = true := by
  cases made with
  | plain => cases version
  | counted => cases version
  | keyed => rfl

theorem main_bound (made : Modification operation sql parameters batch) :
    ∃ statement, bind sql parameters = .ok statement ∧
      batch.requestsOf .main = [.execute statement] := by
  cases made with
  | plain statement bound => exact ⟨statement, bound, rfl⟩
  | counted statement table bound => exact ⟨statement, bound, rfl⟩
  | keyed statement table row argument bound =>
      exact ⟨statement, bound, requests_of_keyed .main⟩

theorem checks_row (made : Modification operation sql parameters batch)
    (keyed : batch.isKeyed = true) :
    ∃ key table sent, Checks operation sql parameters batch key table sent := by
  cases made with
  | plain => cases keyed
  | counted => cases keyed
  | keyed statement table row sent bound resolved found encoded =>
      exact ⟨row.key, table, sent, keyed_row_iff.mp found, rfl, (modified_table_some.mp resolved).2,
        encoded, requests_of_keyed .verify, requests_of_keyed .refresh⟩

end Modification

theorem is_keyed_iff_role {batch : Batch} : batch.isKeyed = true ↔ .verify ∈ batch.roles :=
  List.contains_iff_mem

/-- The batch of a modification is built in one of four shapes, decided by the operation, the table,
the predicate and the value of its key. -/
theorem modification_shape {operation : Sql.Operation} {sql : Text} {parameters : Parameters}
    {batch : Batch} (built : ofModification operation sql parameters = .ok batch) :
    IsShaped operation sql parameters batch := by
  have made := of_modification_iff.mp built
  have ordered := made.roles_ordered
  refine {
    aligned := ?_
    ordered := ordered
    counted := changes_behind_main ordered
    closed := close_last ordered
    plain := made.roles_plain_iff.trans modified_table_none
    checked := ?_
    keyed := is_keyed_iff_role
    valued := made.key_valued_iff.trans is_keyed_iff_role
    checks := fun verified => made.checks_row (is_keyed_iff_role.mpr verified)
    refreshed := made.refresh_iff
    versioned := made.keyed_of_version
    performed := made.main_operation
    main := made.main_bound }
  · simp [requests, roles, operations]
  · rw [← is_keyed_iff_role, made.is_keyed_iff, Option.isSome_iff_ne_none, ne_eq,
      modified_table_none, not_or, not_not, ne_eq]

/-- An update of a row with a key and a token has the longest of the shapes. -/
theorem modification_shape_mixed :
    ∃ batch, ofModification .update mixedUpdate.text mixedParameters = .ok batch ∧
      IsShaped .update mixedUpdate.text mixedParameters batch ∧
      batch.roles = [.verify, .main, .changes, .refresh, .close] := by
  obtain ⟨main, built⟩ :=
    keyed_statement_built mixedUpdate (.inl rfl) mixed_parameters_bind rfl rfl rfl
  exact ⟨_, built, modification_shape built, rfl⟩

end Batch
end SqlPipeline
