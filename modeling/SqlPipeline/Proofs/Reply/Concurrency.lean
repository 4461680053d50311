import SqlPipeline.Proofs.Reply.Count
import SqlPipeline.Proofs.Sql.Numbering

/-!
What a modification reports. A keyed modification reports a missing row before it looks at the
changes, and no changes as a conflict; the message of either names the row, and a key that cannot be
written leaves no message to raise.
-/

namespace SqlPipeline

/-- A value that has a text: every value but those that hold an integer too long to be written. -/
def Value.IsWritable (value : Value) : Prop :=
  ∃ text, value.display? = some text

namespace Reply

/-- How the message about a missing row ends. -/
def missingWords : Text := "was not found."

/-- How the message about a row without changes ends. -/
def changedWords : Text := "was modified or deleted by another process."

/-- A concurrency violation of a statement about a key and a version, with the end of its message. -/
def IsViolation (outcome : Outcome Int) (sql : Text) (key version : Value) (words : Text) : Prop :=
  ∃ error : LibraryError, outcome = .error (.library error) ∧ error.kind = .concurrencyViolation ∧
    words <:+ error.message ∧ error.cause.key? = some key ∧ error.cause.version? = some version ∧
    error.sql? = some sql

section Outcome

variable {operation : Sql.Operation} {sql : Text} {parameters : Parameters} {batch : Batch}
  {reply : Reply}

theorem affected_of_modifies (modifies : operation.modifies = true)
    (made : Batch.Modification operation sql parameters batch) :
    affected batch reply = affectedByModification batch reply := by
  rw [affected, made.main_operation, if_pos modifies]

/-- Once the check of the row is passed, the count of changes decides. -/
theorem affected_by_changes {checked : Option Int} {entry : Wire.ResponseEntry}
    (verified : firstInteger (reply.answerTo? batch .verify) = .ok checked)
    (present : checked ≠ some 0) (answer : reply.answerTo? batch .changes = some entry) :
    affectedByModification batch reply = affectedByChanges batch entry := by
  rw [affectedByModification, verified]
  change (if checked = some 0 then _ else _) = _
  rw [if_neg present, answer]

theorem affected_by_unanswered {checked : Option Int}
    (verified : firstInteger (reply.answerTo? batch .verify) = .ok checked)
    (present : checked ≠ some 0) (unanswered : reply.answerTo? batch .changes = none) :
    affectedByModification batch reply = .ok 0 := by
  rw [affectedByModification, verified]
  change (if checked = some 0 then _ else _) = _
  rw [if_neg present, unanswered]

theorem affected_by_missing (verified : firstInteger (reply.answerTo? batch .verify) = .ok (some 0)) :
    affectedByModification batch reply = rowMissing batch := by
  rw [affectedByModification, verified]
  rfl

theorem changes_of_holds {entry : Wire.ResponseEntry} {changes : Int} (holds : entry.Holds changes) :
    affectedByChanges batch entry =
      if changes = 0 ∧ batch.isKeyed then rowChanged batch else .ok changes := by
  rw [affectedByChanges, first_integer_iff.mpr holds]
  rfl

theorem changes_of_silent {entry : Wire.ResponseEntry} (silent : entry.IsSilent) :
    affectedByChanges batch entry = .ok 0 := by
  rw [affectedByChanges, first_integer_none_iff.mpr silent]
  rfl

theorem words_differ {message : Text} (missing : missingWords <:+ message)
    (changed : changedWords <:+ message) : False := by
  have within : missingWords <:+ changedWords :=
    List.suffix_of_suffix_length_le missing changed (by decide)
  exact absurd within (by decide)

theorem record_text_ends (keyText : Text) (versionText? : Option Text) :
    missingWords <:+ Cause.recordText keyText versionText? := by
  cases versionText? with
  | none =>
      have words : missingWords <:+ "' was not found.".toList := by decide
      exact words.trans (List.suffix_append _ _)
  | some version =>
      have words : missingWords <:+ " was not found.".toList := by decide
      exact words.trans (List.suffix_append _ _)

theorem changed_text_ends (key version : Value) (keyText : Text) :
    changedWords <:+ (Cause.rowChanged key version keyText).message := by
  have words : changedWords <:+ "' was modified or deleted by another process.".toList := by decide
  exact words.trans (List.suffix_append _ _)

theorem version_text_of_writable {version : Value} (writable : version.IsWritable) :
    ∃ versionText?, versionText version = .ok versionText? := by
  obtain ⟨text, shown⟩ := writable
  by_cases null : version.isNull = true
  · exact ⟨none, if_pos null⟩
  · refine ⟨some text, ?_⟩
    rw [versionText, if_neg null, shown]
    rfl

theorem row_missing_eq {keyText : Text} {versionText? : Option Text}
    (key : batch.key.display? = some keyText)
    (version : versionText batch.expectedVersion = .ok versionText?) :
    (rowMissing batch : Outcome Int) = .error (.library (.ofSql
      (.rowMissing batch.key batch.expectedVersion keyText versionText?) batch.sql)) := by
  rw [rowMissing, version, key]
  rfl

theorem row_changed_eq {keyText : Text} (key : batch.key.display? = some keyText) :
    (rowChanged batch : Outcome Int) = .error (.library (.ofSql
      (.rowChanged batch.key batch.expectedVersion keyText) batch.sql)) := by
  rw [rowChanged, key]
  rfl

theorem version_text_of_unwritable {version : Value} (unwritable : ¬version.IsWritable) :
    versionText version = .error .badContent := by
  have notNull : ¬version.isNull = true := by
    intro null
    cases version with
    | null => exact unwritable ⟨_, rfl⟩
    | _ => cases null
  have shown : version.display? = none := Option.eq_none_iff_forall_ne_some.mpr fun text shown =>
    unwritable ⟨text, shown⟩
  rw [versionText, if_neg notNull, shown]
  rfl

theorem row_missing_violation (key : batch.key.IsWritable)
    (version : batch.expectedVersion.IsWritable) :
    IsViolation (rowMissing batch) batch.sql batch.key batch.expectedVersion missingWords := by
  obtain ⟨keyText, shown⟩ := key
  obtain ⟨versionText?, read⟩ := version_text_of_writable version
  exact ⟨_, row_missing_eq shown read, rfl, record_text_ends keyText versionText?, rfl, rfl, rfl⟩

theorem row_missing_fault
    (unwritable : ¬(batch.key.IsWritable ∧ batch.expectedVersion.IsWritable)) :
    (rowMissing batch : Outcome Int) = .error (.fault .badContent) := by
  by_cases version : batch.expectedVersion.IsWritable
  · obtain ⟨versionText?, read⟩ := version_text_of_writable version
    have shown : batch.key.display? = none := Option.eq_none_iff_forall_ne_some.mpr
      fun text shown => unwritable ⟨⟨text, shown⟩, version⟩
    rw [rowMissing, read, shown]
    rfl
  · rw [rowMissing, version_text_of_unwritable version]
    rfl

theorem row_changed_violation (key : batch.key.IsWritable) :
    IsViolation (rowChanged batch) batch.sql batch.key batch.expectedVersion changedWords := by
  obtain ⟨keyText, shown⟩ := key
  exact ⟨_, row_changed_eq shown, rfl, changed_text_ends _ _ keyText, rfl, rfl, rfl⟩

theorem row_changed_fault (unwritable : ¬batch.key.IsWritable) :
    (rowChanged batch : Outcome Int) = .error (.fault .badContent) := by
  have shown : batch.key.display? = none := Option.eq_none_iff_forall_ne_some.mpr
    fun text shown => unwritable ⟨text, shown⟩
  rw [rowChanged, shown]
  rfl

theorem violation_words {outcome : Outcome Int} {key version : Value}
    (missing : IsViolation outcome sql key version missingWords)
    (changed : IsViolation outcome sql key version changedWords) : False := by
  obtain ⟨error, raised, _, ends, _⟩ := missing
  obtain ⟨again, raisedAgain, _, endsAgain, _⟩ := changed
  rw [raised] at raisedAgain
  cases raisedAgain
  exact words_differ ends endsAgain

/-- What becomes of a keyed modification whose row was counted and that changed so many rows. -/
def keyedOutcome (batch : Batch) (found changes : Int) : Outcome Int :=
  if found = 0 then rowMissing batch else if changes = 0 then rowChanged batch else .ok changes

theorem not_violation_ok {n : Int} {key version : Value} {words : Text} :
    ¬IsViolation (.ok n) sql key version words := by
  rintro ⟨error, raised, _⟩
  cases raised

theorem not_violation_fault {fault : Fault} {key version : Value} {words : Text} :
    ¬IsViolation (.error (.fault fault)) sql key version words := by
  rintro ⟨error, raised, _⟩
  cases raised

theorem missing_violation_iff (found changes : Int) :
    IsViolation (keyedOutcome batch found changes) batch.sql batch.key batch.expectedVersion
        missingWords ↔
      found = 0 ∧ batch.key.IsWritable ∧ batch.expectedVersion.IsWritable := by
  unfold keyedOutcome
  by_cases missing : found = 0
  · rw [if_pos missing]
    by_cases writable : batch.key.IsWritable ∧ batch.expectedVersion.IsWritable
    · exact iff_of_true (row_missing_violation writable.1 writable.2) ⟨missing, writable⟩
    · rw [row_missing_fault writable]
      exact iff_of_false not_violation_fault fun holds => writable holds.2
  · rw [if_neg missing]
    refine iff_of_false ?_ fun holds => missing holds.1
    by_cases unchanged : changes = 0
    · rw [if_pos unchanged]
      by_cases writable : batch.key.IsWritable
      · exact fun violation => violation_words violation (row_changed_violation writable)
      · rw [row_changed_fault writable]
        exact not_violation_fault
    · rw [if_neg unchanged]
      exact not_violation_ok

theorem changed_violation_iff (found changes : Int) :
    IsViolation (keyedOutcome batch found changes) batch.sql batch.key batch.expectedVersion
        changedWords ↔
      found ≠ 0 ∧ changes = 0 ∧ batch.key.IsWritable := by
  unfold keyedOutcome
  by_cases missing : found = 0
  · rw [if_pos missing]
    refine iff_of_false ?_ fun holds => holds.1 missing
    by_cases writable : batch.key.IsWritable ∧ batch.expectedVersion.IsWritable
    · exact violation_words (row_missing_violation writable.1 writable.2)
    · rw [row_missing_fault writable]
      exact not_violation_fault
  · rw [if_neg missing]
    by_cases unchanged : changes = 0
    · rw [if_pos unchanged]
      by_cases writable : batch.key.IsWritable
      · exact iff_of_true (row_changed_violation writable) ⟨missing, unchanged, writable⟩
      · rw [row_changed_fault writable]
        exact iff_of_false not_violation_fault fun holds => writable holds.2.2
    · rw [if_neg unchanged]
      exact iff_of_false not_violation_ok fun holds => unchanged holds.2.1

theorem row_missing_not_ok (n : Int) : (rowMissing batch : Outcome Int) ≠ .ok n := by
  by_cases writable : batch.key.IsWritable ∧ batch.expectedVersion.IsWritable
  · obtain ⟨error, raised, _⟩ := row_missing_violation writable.1 writable.2
    simp [raised]
  · simp [row_missing_fault writable]

theorem row_changed_not_ok (n : Int) : (rowChanged batch : Outcome Int) ≠ .ok n := by
  by_cases writable : batch.key.IsWritable
  · obtain ⟨error, raised, _⟩ := row_changed_violation writable
    simp [raised]
  · simp [row_changed_fault writable]

theorem keyed_ok_iff (found changes n : Int) :
    keyedOutcome batch found changes = .ok n ↔ found ≠ 0 ∧ changes ≠ 0 ∧ changes = n := by
  unfold keyedOutcome
  by_cases missing : found = 0
  · rw [if_pos missing]
    exact iff_of_false (row_missing_not_ok n) fun holds => holds.1 missing
  · rw [if_neg missing]
    by_cases unchanged : changes = 0
    · rw [if_pos unchanged]
      exact iff_of_false (row_changed_not_ok n) fun holds => holds.2.1 unchanged
    · rw [if_neg unchanged, Except.ok.injEq]
      exact ⟨fun same => ⟨missing, unchanged, same⟩, fun holds => holds.2.2⟩

theorem keyed_fault_iff (found changes : Int) :
    keyedOutcome batch found changes = .error (.fault .badContent) ↔
      (found = 0 ∧ ¬(batch.key.IsWritable ∧ batch.expectedVersion.IsWritable)) ∨
        (found ≠ 0 ∧ changes = 0 ∧ ¬batch.key.IsWritable) := by
  unfold keyedOutcome
  by_cases missing : found = 0
  · rw [if_pos missing]
    by_cases writable : batch.key.IsWritable ∧ batch.expectedVersion.IsWritable
    · obtain ⟨error, raised, _⟩ := row_missing_violation writable.1 writable.2
      simp [raised, missing, writable]
    · exact iff_of_true (row_missing_fault writable) (.inl ⟨missing, writable⟩)
  · rw [if_neg missing]
    by_cases unchanged : changes = 0
    · rw [if_pos unchanged]
      by_cases writable : batch.key.IsWritable
      · obtain ⟨error, raised, _⟩ := row_changed_violation writable
        simp [raised, missing, writable]
      · exact iff_of_true (row_changed_fault writable) (.inr ⟨missing, unchanged, writable⟩)
    · rw [if_neg unchanged]
      simp [missing, unchanged]

theorem affected_of_keyed_counts {found changes : Int} (modifies : operation.modifies = true)
    (made : Batch.Modification operation sql parameters batch) (keyed : batch.isKeyed = true)
    (verified : reply.Counts batch .verify found) (counted : reply.Counts batch .changes changes) :
    affected batch reply = keyedOutcome batch found changes := by
  have shape : batch.indexOf? .verify = some 0 ∧ batch.indexOf? .changes = some 2 := by
    cases made with
    | plain => cases keyed
    | counted => cases keyed
    | keyed => exact ⟨rfl, rfl⟩
  obtain ⟨check, checkFound, checkHolds⟩ := answer_of_counts shape.1 verified
  obtain ⟨count, countFound, countHolds⟩ := answer_of_counts shape.2 counted
  have read : firstInteger (reply.answerTo? batch .verify) = .ok (some found) := by
    rw [checkFound, first_integer_iff.mpr checkHolds]
  rw [affected_of_modifies modifies made, keyedOutcome]
  by_cases missing : found = 0
  · rw [if_pos missing]
    rw [missing] at read
    exact affected_by_missing read
  · have present : some found ≠ some 0 := by simpa using missing
    rw [if_neg missing, affected_by_changes read present countFound, changes_of_holds countHolds]
    simp only [keyed, and_true]

theorem affected_of_unkeyed_counts {changes : Int} (modifies : operation.modifies = true)
    (resolved : (Batch.modifiedTable? operation sql).isSome)
    (made : Batch.Modification operation sql parameters batch) (unkeyed : batch.isKeyed = false)
    (counted : reply.Counts batch .changes changes) : affected batch reply = .ok changes := by
  have shape : batch.indexOf? .verify = none ∧ batch.indexOf? .changes = some 1 := by
    cases made with
    | plain statement bound unresolved => simp [unresolved] at resolved
    | counted => exact ⟨rfl, rfl⟩
    | keyed => cases unkeyed
  obtain ⟨count, countFound, countHolds⟩ := answer_of_counts shape.2 counted
  have read : firstInteger (reply.answerTo? batch .verify) = .ok none := by
    rw [answerTo?, shape.1]
    rfl
  rw [affected_of_modifies modifies made, affected_by_changes read (by simp) countFound,
    changes_of_holds countHolds]
  simp only [unkeyed, Bool.false_eq_true, and_false, if_false]

end Outcome

/-- The outcome of a modification whose table is resolved and whose counts are answered. It is a
violation as the counts say, unless the key or the version that the message names cannot be written;
then the fault of writing it comes in place of the violation. -/
theorem modification_outcome {operation : Sql.Operation} {sql : Text} {parameters : Parameters}
    {batch : Batch} {reply : Reply} {found changes : Int}
    (modifies : operation = .update ∨ operation = .delete)
    (resolved : (Sql.TableName.quoted? sql).isSome)
    (built : Batch.ofModification operation sql parameters = .ok batch)
    (verified : reply.Counts batch .verify found) (counted : reply.Counts batch .changes changes) :
    (batch.isKeyed = false -> affected batch reply = .ok changes) ∧
    (batch.isKeyed = true -> ∃ key version, Batch.NamesRow sql parameters key version ∧
      (IsViolation (affected batch reply) sql key.value version missingWords ↔
        found = 0 ∧ key.value.IsWritable ∧ version.IsWritable) ∧
      (IsViolation (affected batch reply) sql key.value version changedWords ↔
        found ≠ 0 ∧ changes = 0 ∧ key.value.IsWritable) ∧
      (∀ n, affected batch reply = .ok n ↔ found ≠ 0 ∧ changes ≠ 0 ∧ changes = n) ∧
      (affected batch reply = .error (.fault .badContent) ↔
        (found = 0 ∧ ¬(key.value.IsWritable ∧ version.IsWritable)) ∨
          (found ≠ 0 ∧ changes = 0 ∧ ¬key.value.IsWritable))) := by
  have changing : operation.modifies = true := by
    rcases modifies with rfl | rfl <;> rfl
  have made := Batch.of_modification_iff.mp built
  constructor
  · intro unkeyed
    rw [← Batch.modified_table_eq changing] at resolved
    exact affected_of_unkeyed_counts changing resolved made unkeyed counted
  · intro keyed
    obtain ⟨key, names, same⟩ := made.names_row keyed
    refine ⟨key, batch.expectedVersion, names, ?_⟩
    rw [affected_of_keyed_counts changing made keyed verified counted, ← made.sql_eq, ← same]
    exact ⟨missing_violation_iff found changes, changed_violation_iff found changes,
      keyed_ok_iff found changes, keyed_fault_iff found changes⟩

/-- A number that is bound as the key of a row and sent as a flag, which never is too long. -/
def flagKey (n : Int) : Parameter :=
  ⟨"@k", .int n, some .boolean, 0, false⟩

def flagOpening : Text := "UPDATE \"T\" SET \"a\" = 1 WHERE \"Id\" = "

def flagUpdate : Text := flagOpening ++ "@k"

theorem flag_key_encode {n : Int} (notZero : n ≠ 0) :
    (flagKey n).encode = .ok ⟨some "@k", .integer ['1']⟩ := by
  have truth : Value.truth (.int n) = true := by simpa [Value.truth, Value.holds] using notZero
  have content : Wire.encodeContent .boolean (.int n) = .ok (.integer ['1']) := by
    simp only [Wire.encodeContent, Value.isNull, truth, Bool.false_eq_true, if_false, if_true]
  change Wire.encodeContent .boolean (.int n) >>= _ = _
  rw [content]
  rfl

theorem flag_key_bound {n : Int} (notZero : n ≠ 0) (opening : Text) (plain : '@' ∉ opening)
    (bare : Sql.Quoting.bare.run opening = .bare) :
    Batch.bind (opening ++ "@k") (.ofList [flagKey n]) =
      .ok ⟨opening ++ "?1", [⟨some "@k", .integer ['1']⟩]⟩ := by
  have numbered : Sql.number (opening ++ "@k") = ⟨opening ++ "?1", ["@k".toList]⟩ :=
    Sql.number_of_name plain bare (List.cons_ne_nil _ _) (by decide)
  have argument : Batch.argument (opening ++ "@k") (.ofList [flagKey n]) "@k" =
      .ok ⟨some "@k", .integer ['1']⟩ := flag_key_encode notZero
  rw [Batch.bind, numbered]
  simp only [List.mapM_cons, argument]
  rfl

/-- The batch of a statement that gives its row by a flag. -/
theorem flag_keyed_built {n : Int} {sql table : Text} {statement : Wire.Statement} (notZero : n ≠ 0)
    (bound : Batch.bind sql (.ofList [flagKey n]) = .ok statement)
    (resolved : Batch.modifiedTable? .update sql = some table)
    (predicate : Sql.KeyPredicate.find? sql = some ⟨"@k", none⟩) :
    ∃ batch, Batch.ofModification .update sql (.ofList [flagKey n]) = .ok batch ∧
      batch.isKeyed = true ∧ batch.indexOf? .verify = some 0 ∧ batch.indexOf? .changes = some 2 ∧
      batch.key = .int n ∧ batch.expectedVersion = .null := by
  have entry : (Parameters.ofList [flagKey n]).find? "@k" = some ⟨0, flagKey n⟩ := rfl
  have found : Batch.keyedRow? sql (.ofList [flagKey n]) = some ⟨flagKey n, .null⟩ :=
    Batch.keyed_row_eq predicate entry
  have made := Batch.Modification.keyed _ _ _ _ bound resolved found (flag_key_encode notZero)
  exact ⟨_, Batch.of_modification_iff.mpr made, rfl, rfl, rfl, rfl, rfl⟩

theorem flag_update_predicate : Sql.KeyPredicate.find? flagUpdate = some ⟨"@k", none⟩ := by decide

theorem flag_update_built {n : Int} (notZero : n ≠ 0) :
    ∃ batch, Batch.ofModification .update flagUpdate (.ofList [flagKey n]) = .ok batch ∧
      batch.isKeyed = true ∧ batch.indexOf? .verify = some 0 ∧
      batch.indexOf? .changes = some 2 := by
  have bound := flag_key_bound notZero flagOpening (by decide) (by decide)
  have resolved : Batch.modifiedTable? .update flagUpdate = some "\"T\"".toList := by decide
  obtain ⟨batch, built, keyed, verify, changes, _⟩ :=
    flag_keyed_built notZero bound resolved flag_update_predicate
  exact ⟨batch, built, keyed, verify, changes⟩

theorem int_writable_iff {n : Int} :
    (Value.int n).IsWritable ↔ n.natAbs < 10 ^ Numeral.longest := by
  constructor
  · rintro ⟨text, shown⟩
    by_cases short : n.natAbs < 10 ^ Numeral.longest
    · exact short
    · have tooLong : Numeral.integerText? n = none := if_neg short
      change Numeral.integerText? n = some text at shown
      rw [tooLong] at shown
      cases shown
  · intro short
    have shown : Numeral.integerText? n = some (Text.ofInt n) := if_pos short
    exact ⟨_, shown⟩

/-- The row of a key that cannot be written is missing, and no violation is raised. -/
theorem modification_outcome_unwritable_key :
    ∃ batch, Batch.ofModification .update flagUpdate
        (.ofList [flagKey (10 ^ Numeral.longest)]) = .ok batch ∧
      batch.isKeyed = true ∧ (ofCounts [0, 0, 0]).Counts batch .verify 0 ∧
      (ofCounts [0, 0, 0]).Counts batch .changes 0 ∧
      affected batch (ofCounts [0, 0, 0]) = .error (.fault .badContent) := by
  have notZero : (10 ^ Numeral.longest : Int) ≠ 0 := Int.pow_ne_zero (by decide)
  obtain ⟨batch, built, keyed, verify, changes⟩ := flag_update_built notZero
  have distinct := (Batch.of_modification_iff.mp built).roles_distinct
  have verified : (ofCounts [0, 0, 0]).Counts batch .verify 0 :=
    of_counts_counts distinct verify rfl
  have counted : (ofCounts [0, 0, 0]).Counts batch .changes 0 :=
    of_counts_counts distinct changes rfl
  obtain ⟨key, version, names, _, _, _, fault⟩ :=
    (modification_outcome (.inl rfl) (by decide) built verified counted).2 keyed
  refine ⟨batch, built, keyed, verified, counted, fault.mpr (.inl ⟨rfl, ?_⟩)⟩
  cases names with
  | key predicate entry found bound notNull =>
      cases found.symm.trans flag_update_predicate
      cases bound
      have ten : (10 : Int).natAbs = 10 := rfl
      have size : (10 ^ Numeral.longest : Int).natAbs = 10 ^ Numeral.longest :=
        (Int.natAbs_pow 10 Numeral.longest).trans (congrArg (fun base => base ^ Numeral.longest) ten)
      exact fun writable => Nat.ne_of_lt (int_writable_iff.mp writable.1) size

end Reply
end SqlPipeline
