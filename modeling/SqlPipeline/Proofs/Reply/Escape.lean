import SqlPipeline.Proofs.Reply.Settlement
import SqlPipeline.Proofs.Reply.Silence
import SqlPipeline.Proofs.Wire.Undecodable
import SqlPipeline.Reply.Scalar
import SqlPipeline.Reply.Tables

/-!
What escapes the reading of a reply. A cell whose content cannot be used is reported as a protocol
error by the readers of scalars and of tables, and only what is wrong with a cell in another way
escapes them. The reader of counts reports no cell: whatever it cannot read escapes it.
-/

namespace SqlPipeline
namespace Reply

open Outcome (FailsBy fails_bind fails_error fails_iff not_fails_ok failure?)
open Wire (IsBrokenBlob IsTooGreat IsUnaccounted StatementResult ResponseEntry)

variable {batch : Batch} {reply : Reply}

theorem result_received (received : reply.IsReceived) {result : StatementResult}
    (member : some result ∈ reply.results) : result.IsReceived := by
  obtain ⟨entry, own, given⟩ := List.mem_map.mp member
  exact received entry own result given

theorem first_cell_received {result : StatementResult} (received : result.IsReceived) :
    Wire.IsReceived result.firstCell := by
  unfold StatementResult.firstCell
  split
  · rename_i cell rest later rows
    exact received (cell :: rest) (rows ▸ List.mem_cons_self) cell List.mem_cons_self
  · exact ⟨.null, .null, rfl⟩

/-! Scalars. -/

theorem last_mem {results : List (Option StatementResult)} {result : StatementResult}
    (last : lastWithRows results = some result) : some result ∈ results := by
  obtain ⟨result?, member, found⟩ := List.exists_of_findSome?_eq_some last
  obtain ⟨same, -⟩ := Option.filter_eq_some_iff.mp found
  exact same ▸ List.mem_reverse.mp member

/-- A reading whose failures for content are reported, and no others. -/
def reported (batch : Batch) (reply : Reply) (cause : Text -> Cause) (read : Except Fault Value) :
    Outcome Value :=
  match read with
  | .ok value => .ok value
  | .error fault =>
      if fault.isContent then .error (refuse batch reply (cause (reasonOf fault)))
      else .error (.fault fault)

theorem reported_ok_iff {cause : Text -> Cause} {read : Except Fault Value} :
    failure? (reported batch reply cause read) = none ↔ ∃ value, read = .ok value := by
  cases read with
  | ok value => exact iff_of_true rfl ⟨value, rfl⟩
  | error own =>
      rw [reported]
      refine iff_of_false ?_ nofun
      by_cases content : own.isContent = true
      · rw [if_pos content]
        nofun
      · rw [if_neg content]
        nofun

theorem reported_fault_iff {cause : Text -> Cause} {read : Except Fault Value} :
    FailsBy Failure.IsFault (reported batch reply cause read) ↔
      ∃ fault, read = .error fault ∧ fault.isContent = false := by
  cases read with
  | ok value => exact iff_of_false not_fails_ok nofun
  | error own =>
      rw [reported]
      by_cases content : own.isContent = true
      · rw [if_pos content, fails_error]
        refine iff_of_false id ?_
        rintro ⟨fault, same, outside⟩
        cases same
        rw [content] at outside
        cases outside
      · rw [if_neg content, fails_error]
        exact iff_of_true trivial ⟨own, rfl, Bool.eq_false_iff.mpr content⟩

theorem reported_not_canceled {cause : Text -> Cause} {read : Except Fault Value} :
    ¬FailsBy Failure.IsCanceled (reported batch reply cause read) := by
  cases read with
  | ok value => exact not_fails_ok
  | error own =>
      rw [reported]
      by_cases content : own.isContent = true
      · rw [if_pos content, fails_error]
        exact id
      · rw [if_neg content, fails_error]
        exact id

theorem scalar_eq (batch : Batch) (reply : Reply) :
    scalar batch reply =
      match lastWithRows reply.results with
      | some result =>
          (reported batch reply .scalarUnreadable
            (Wire.decodeCell .anything result.firstCell)).map (orZero batch.sql)
      | none => .ok (orZero batch.sql (match lastCount batch reply.results with
        | some count => .int count
        | none => .null)) := by
  rw [scalar]
  cases lastWithRows reply.results with
  | none => rfl
  | some result =>
      have read : cellValue batch reply result.firstCell = reported batch reply .scalarUnreadable
          (Wire.decodeCell .anything result.firstCell) := rfl
      dsimp only
      rw [read]
      cases reported batch reply .scalarUnreadable (Wire.decodeCell .anything result.firstCell) with
      | ok value => rfl
      | error failure => rfl

/-- The cell of the scalar is unaccounted for. -/
def ScalarEscapes (reply : Reply) : Prop :=
  ∃ result, lastWithRows reply.results = some result ∧ IsUnaccounted result.firstCell

theorem scalar_fault_iff (received : reply.IsReceived) :
    FailsBy Failure.IsFault (scalar batch reply) ↔ reply.ScalarEscapes := by
  rw [scalar_eq, ScalarEscapes]
  cases last : lastWithRows reply.results with
  | none => exact iff_of_false not_fails_ok nofun
  | some result =>
      have first := first_cell_received (result_received received (last_mem last))
      rw [Outcome.fails_map, reported_fault_iff, Wire.unaccounted_iff first]
      constructor
      · exact fun lost => ⟨result, rfl, lost⟩
      · rintro ⟨own, same, lost⟩
        cases same
        exact lost

theorem scalar_not_canceled : ¬FailsBy Failure.IsCanceled (scalar batch reply) := by
  rw [scalar_eq]
  cases lastWithRows reply.results with
  | none => exact not_fails_ok
  | some result =>
      rw [Outcome.fails_map]
      exact reported_not_canceled

/-! Tables. -/

/-- A cell that is to be read as the type of its column. -/
structure Reading where
  ordinal : Nat
  type : Result.CellType
  cell : Value

namespace Reading

def value (reading : Reading) : Except Fault Value :=
  readCell reading.type reading.cell

/-- A reading that fails otherwise than for its content: the cell is unaccounted for, or it is a
whole number too great for a column of real numbers, or a stamp that universal time has no date
for. -/
def Escapes (reading : Reading) : Prop :=
  IsUnaccounted reading.cell ∨
    (reading.type = .real ∧
      ∃ n, Wire.decodeCell .anything reading.cell = .ok (.int n) ∧ IsTooGreat n) ∨
    (reading.type = .stamp ∧
      ∃ s, Wire.decodeCell .anything reading.cell = .ok (.text s) ∧
        Time.Stamp.read s = .error .outOfRange)

end Reading

/-- The readings of a reply in their order: by results with columns, rows and columns. -/
def readings (reply : Reply) : List Reading :=
  (reply.executed.filter fun result => !result.columns.isEmpty).flatMap fun result =>
    result.rows.flatMap fun row => (columnsOf result).zipIdx.map fun (column, ordinal) =>
      ⟨ordinal, column.type, row[ordinal]?.getD .null⟩

theorem coerce_real_error_iff {value : Value} {fault : Fault} :
    coerceReal value = .error fault ↔ fault = .outOfRange ∧ ∃ n, value = .int n ∧ IsTooGreat n := by
  cases value with
  | bool b =>
      rw [coerceReal]
      exact Wire.decode_real_error_iff
  | int n =>
      rw [coerceReal]
      exact Wire.decode_real_error_iff
  | text s =>
      rw [coerceReal]
      exact Wire.decode_real_error_iff
  | _ => simp [coerceReal]

theorem coerce_stamp_error_iff {value : Value} {fault : Fault} :
    coerceStamp value = .error fault ↔
      fault = .outOfRange ∧ ∃ s, value = .text s ∧ Time.Stamp.read s = .error .outOfRange := by
  cases value with
  | text s =>
      simp only [coerceStamp, Wire.expectStamp]
      cases read : Time.Stamp.read s with
      | ok stamp => simp [read]
      | error reason =>
          cases reason with
          | malformed => simp [read]
          | outOfRange => simp [read, eq_comm]
  | _ => simp [coerceStamp]

/-- A cell that was decoded is brought to the type of its column, unless it is out of range. -/
theorem coerce_error_iff {type : Result.CellType} {value : Value} {fault : Fault} :
    coerce type value = .error fault ↔ fault = .outOfRange ∧
      ((type = .real ∧ ∃ n, value = .int n ∧ IsTooGreat n) ∨
        (type = .stamp ∧ ∃ s, value = .text s ∧ Time.Stamp.read s = .error .outOfRange)) := by
  cases type with
  | real => simpa [coerce] using coerce_real_error_iff
  | stamp => simpa [coerce] using coerce_stamp_error_iff
  | _ => simp [coerce]

theorem reading_escapes_iff {reading : Reading} (received : Wire.IsReceived reading.cell) :
    (∃ fault, reading.value = .error fault ∧ fault.isContent = false) ↔ reading.Escapes := by
  rw [Reading.Escapes, ← Wire.unaccounted_iff received, Reading.value, readCell]
  cases decoded : Wire.decodeCell .anything reading.cell with
  | error fault =>
      refine (or_iff_left ?_).symm
      rintro (⟨-, n, same, -⟩ | ⟨-, s, same, -⟩)
      · cases same
      · cases same
  | ok value =>
      rw [Outcome.ok_bind]
      constructor
      · rintro ⟨fault, failed, -⟩
        obtain ⟨-, ⟨type, n, rfl, great⟩ | ⟨type, s, rfl, out⟩⟩ := coerce_error_iff.mp failed
        · exact .inr (.inl ⟨type, n, rfl, great⟩)
        · exact .inr (.inr ⟨type, s, rfl, out⟩)
      · rintro (⟨fault, same, -⟩ | ⟨type, n, same, great⟩ | ⟨type, s, same, out⟩)
        · cases same
        · cases same
          exact ⟨.outOfRange, coerce_error_iff.mpr ⟨rfl, .inl ⟨type, n, rfl, great⟩⟩, rfl⟩
        · cases same
          exact ⟨.outOfRange, coerce_error_iff.mpr ⟨rfl, .inr ⟨type, s, rfl, out⟩⟩, rfl⟩

theorem find_some_flat_map {α β γ : Type} (items : List α) (parts : α -> List β)
    (find : β -> Option γ) :
    (items.flatMap parts).findSome? find = items.findSome? fun item => (parts item).findSome? find := by
  induction items with
  | nil => rfl
  | cons item later ih =>
      rw [List.flatMap_cons, List.findSome?_append, List.findSome?_cons, ih]
      cases (parts item).findSome? find with
      | none => rfl
      | some found => rfl

theorem table_failure (batch : Batch) (reply : Reply) (result : StatementResult) :
    failure? (table batch reply result) = result.rows.findSome? fun row =>
      (columnsOf result).zipIdx.findSome? fun (column, ordinal) =>
        failure? (cell batch reply row column ordinal) := by
  rw [table]
  dsimp only
  rw [Outcome.failure_of_result, Outcome.failure_of_steps]
  congr 1
  funext cells
  exact Outcome.failure_of_steps _ _

/-- The tables fail by the first reading that fails. -/
theorem tables_failure (batch : Batch) (reply : Reply) :
    failure? (tables batch reply) = (readings reply).findSome? fun reading =>
      failure? (reported batch reply (.cellUnreadable reading.ordinal) reading.value) := by
  by_cases empty : reply.response.entries.isEmpty = true
  · have none : readings reply = [] := by
      rw [readings, executed, results, List.isEmpty_iff.mp empty]
      rfl
    rw [tables, if_pos empty, none]
    rfl
  · rw [tables, if_neg empty]
    dsimp only
    rw [Outcome.failure_of_result, Outcome.failure_of_steps, readings, find_some_flat_map]
    congr 1
    funext result
    rw [table_failure, find_some_flat_map]
    congr 1
    funext cells
    rw [List.findSome?_map]
    rfl

theorem readings_received (received : reply.IsReceived) {reading : Reading}
    (member : reading ∈ readings reply) : Wire.IsReceived reading.cell := by
  obtain ⟨result, executed, inResult⟩ := List.mem_flatMap.mp member
  obtain ⟨row, own, inRow⟩ := List.mem_flatMap.mp inResult
  obtain ⟨⟨column, ordinal⟩, -, rfl⟩ := List.mem_map.mp inRow
  have given : some result ∈ reply.results := by
    obtain ⟨result?, stands, same⟩ := List.mem_filterMap.mp (List.mem_filter.mp executed).1
    exact same ▸ stands
  change Wire.IsReceived (row[ordinal]?.getD .null)
  cases found : row[ordinal]? with
  | none => exact ⟨.null, .null, rfl⟩
  | some cell => exact result_received received given row own cell (List.mem_of_getElem? found)

/-- The first reading that fails does so otherwise than for its content. -/
def TablesEscape (reply : Reply) : Prop :=
  ∃ before reading after, readings reply = before ++ reading :: after ∧
    (∀ earlier ∈ before, ∃ value, earlier.value = .ok value) ∧ reading.Escapes

theorem tables_fault_iff (received : reply.IsReceived) :
    FailsBy Failure.IsFault (tables batch reply) ↔ reply.TablesEscape := by
  rw [fails_iff, tables_failure]
  constructor
  · rintro ⟨failure, found, fault⟩
    obtain ⟨before, reading, after, all, fails, passed⟩ := List.findSome?_eq_some_iff.mp found
    have own := readings_received received (all ▸ List.mem_append_right before List.mem_cons_self)
    refine ⟨before, reading, after, all, fun earlier member =>
      reported_ok_iff.mp (passed earlier member), ?_⟩
    rw [← reading_escapes_iff own, ← reported_fault_iff, fails_iff]
    exact ⟨failure, fails, fault⟩
  · rintro ⟨before, reading, after, all, passed, escapes⟩
    have own := readings_received received (all ▸ List.mem_append_right before List.mem_cons_self)
    rw [← reading_escapes_iff own, ← reported_fault_iff, fails_iff] at escapes
    obtain ⟨failure, fails, fault⟩ := escapes
    refine ⟨failure, List.findSome?_eq_some_iff.mpr ⟨before, reading, after, all, fails, ?_⟩, fault⟩
    exact fun earlier member => reported_ok_iff.mpr (passed earlier member)

theorem tables_not_canceled : ¬FailsBy Failure.IsCanceled (tables batch reply) := by
  rw [fails_iff, tables_failure]
  rintro ⟨failure, found, canceled⟩
  obtain ⟨reading, -, fails⟩ := List.exists_of_findSome?_eq_some found
  exact reported_not_canceled (fails_iff.mpr ⟨failure, fails, canceled⟩)

/-! Counts. -/

theorem first_integer_error_iff {entry : ResponseEntry} (received : entry.IsReceived) :
    (∃ fault, firstInteger (some entry) = .error fault) ↔ entry.IsUnreadable := by
  cases found : entry.result? with
  | none =>
      have silent : entry.IsSilent := .inl found
      rw [first_integer_none_iff.mpr silent]
      refine iff_of_false nofun ?_
      rintro ⟨result, own, -⟩
      rw [found] at own
      cases own
  | some result =>
      by_cases empty : result.rows = []
      · have silent : entry.IsSilent := .inr ⟨result, found, .inl empty⟩
        rw [first_integer_none_iff.mpr silent]
        refine iff_of_false nofun ?_
        rintro ⟨own, same, hasRows, -⟩
        rw [found] at same
        cases same
        exact hasRows empty
      · have undecodable := Wire.undecodable_iff (first_cell_received (received result found))
        have unreadable : entry.IsUnreadable ↔
            IsBrokenBlob result.firstCell ∨ IsUnaccounted result.firstCell := by
          constructor
          · rintro ⟨own, same, -, broken⟩
            rw [found] at same
            cases same
            exact broken
          · exact fun broken => ⟨result, found, empty, broken⟩
        rw [unreadable, ← undecodable, first_integer_eq found empty]
        cases Wire.decodeCell .anything result.firstCell with
        | error fault => exact iff_of_true ⟨fault, rfl⟩ ⟨fault, rfl⟩
        | ok value =>
            refine iff_of_false ?_ nofun
            cases value with
            | int n => nofun
            | _ => nofun

theorem row_missing_fault_iff :
    FailsBy Failure.IsFault (rowMissing batch : Outcome Int) ↔
      ¬(batch.key.IsWritable ∧ batch.expectedVersion.IsWritable) := by
  by_cases writable : batch.key.IsWritable ∧ batch.expectedVersion.IsWritable
  · obtain ⟨error, raised, -⟩ := row_missing_violation writable.1 writable.2
    rw [raised, fails_error]
    exact iff_of_false id (not_not_intro writable)
  · rw [row_missing_fault writable, fails_error]
    exact iff_of_true trivial writable

theorem row_changed_fault_iff :
    FailsBy Failure.IsFault (rowChanged batch : Outcome Int) ↔ ¬batch.key.IsWritable := by
  by_cases writable : batch.key.IsWritable
  · obtain ⟨error, raised, -⟩ := row_changed_violation writable
    rw [raised, fails_error]
    exact iff_of_false id (not_not_intro writable)
  · rw [row_changed_fault writable, fails_error]
    exact iff_of_true trivial writable

theorem changes_fault_iff {entry : ResponseEntry} (received : entry.IsReceived) :
    FailsBy Failure.IsFault (affectedByChanges batch entry) ↔
      entry.IsUnreadable ∨
        (entry.Holds 0 ∧ batch.isKeyed = true ∧ ¬batch.key.IsWritable) := by
  rw [← first_integer_error_iff received, ← first_integer_iff]
  cases read : firstInteger (some entry) with
  | error fault =>
      have failed : affectedByChanges batch entry = .error (.fault fault) := by
        rw [affectedByChanges, read]
        rfl
      rw [failed, fails_error]
      exact iff_of_true trivial (.inl ⟨fault, rfl⟩)
  | ok counted =>
      cases counted with
      | none =>
          rw [changes_of_silent (first_integer_none_iff.mp read)]
          refine iff_of_false not_fails_ok ?_
          rintro (⟨fault, same⟩ | ⟨same, -⟩)
          · cases same
          · cases same
      | some changes =>
          rw [changes_of_holds (first_integer_iff.mp read)]
          by_cases conflict : changes = 0 ∧ batch.isKeyed = true
          · rw [if_pos conflict, row_changed_fault_iff, conflict.1]
            constructor
            · exact fun unwritable => .inr ⟨rfl, conflict.2, unwritable⟩
            · rintro (⟨fault, same⟩ | ⟨-, -, unwritable⟩)
              · cases same
              · exact unwritable
          · rw [if_neg conflict]
            refine iff_of_false not_fails_ok ?_
            rintro (⟨fault, same⟩ | ⟨same, keyed, -⟩)
            · cases same
            · cases same
              exact conflict ⟨rfl, keyed⟩

/-- What escapes the reading of the counts of a modification: an answer that cannot be read, and a
violation whose message cannot be written. -/
inductive CountEscapes (reply : Reply) (batch : Batch) : Prop where
  | check {entry : ResponseEntry} (answers : reply.Answers batch .verify entry)
      (unreadable : entry.IsUnreadable)
  | missing {entry : ResponseEntry} (answers : reply.Answers batch .verify entry)
      (none : entry.Holds 0) (unwritable : ¬(batch.key.IsWritable ∧ batch.expectedVersion.IsWritable))
  | changes {entry : ResponseEntry} (passes : reply.PassesCheck batch)
      (answers : reply.Answers batch .changes entry) (unreadable : entry.IsUnreadable)
  | unchanged {entry : ResponseEntry} (passes : reply.PassesCheck batch)
      (answers : reply.Answers batch .changes entry) (none : entry.Holds 0)
      (keyed : batch.isKeyed = true) (unwritable : ¬batch.key.IsWritable)

/-- A reading of the answer to a role that no missing answer gives is that of an entry. -/
theorem first_integer_of_answer {role : Role} {P : Except Fault (Option Int) -> Prop}
    (distinct : batch.roles.Nodup) (silent : ¬P (.ok none)) :
    P (firstInteger (reply.answerTo? batch role)) ↔
      ∃ entry, reply.Answers batch role entry ∧ P (firstInteger (some entry)) := by
  cases answer : reply.answerTo? batch role with
  | none =>
      refine iff_of_false silent ?_
      rintro ⟨entry, answers, -⟩
      rw [← answer_to_iff distinct, answer] at answers
      cases answers
  | some entry =>
      constructor
      · exact fun holds => ⟨entry, (answer_to_iff distinct).mp answer, holds⟩
      · rintro ⟨own, answers, holds⟩
        rw [← answer_to_iff distinct, answer] at answers
        cases answers
        exact holds

theorem answer_received (received : reply.IsReceived) {role : Role} {entry : ResponseEntry}
    (answers : reply.Answers batch role entry) : entry.IsReceived := by
  obtain ⟨index, -, stands⟩ := answers
  exact received entry (List.mem_of_getElem? stands)

theorem check_unreadable_iff (distinct : batch.roles.Nodup) (received : reply.IsReceived) :
    (∃ fault, firstInteger (reply.answerTo? batch .verify) = .error fault) ↔
      ∃ entry, reply.Answers batch .verify entry ∧ entry.IsUnreadable := by
  rw [first_integer_of_answer (P := fun read => ∃ fault, read = .error fault) distinct nofun]
  exact exists_congr fun entry => and_congr_right fun answers =>
    first_integer_error_iff (answer_received received answers)

theorem check_missing_iff (distinct : batch.roles.Nodup) :
    firstInteger (reply.answerTo? batch .verify) = .ok (some 0) ↔
      ∃ entry, reply.Answers batch .verify entry ∧ entry.Holds 0 := by
  rw [first_integer_of_answer (P := fun read => read = .ok (some 0)) distinct nofun]
  exact exists_congr fun entry => and_congr_right fun _ => first_integer_iff

/-- A modification fails by its check, by the row that the check misses, or by the changes. -/
theorem modification_fails_iff (distinct : batch.roles.Nodup) :
    FailsBy Failure.IsFault (affectedByModification batch reply) ↔
      (∃ fault, firstInteger (reply.answerTo? batch .verify) = .error fault) ∨
      (firstInteger (reply.answerTo? batch .verify) = .ok (some 0) ∧
        FailsBy Failure.IsFault (rowMissing batch : Outcome Int)) ∨
      (reply.PassesCheck batch ∧ ∃ entry, reply.Answers batch .changes entry ∧
        FailsBy Failure.IsFault (affectedByChanges batch entry)) := by
  rw [passes_check_iff distinct]
  cases read : firstInteger (reply.answerTo? batch .verify) with
  | error fault =>
      have failed : affectedByModification batch reply = .error (.fault fault) := by
        rw [affectedByModification, read]
        rfl
      rw [failed, fails_error]
      exact iff_of_true trivial (.inl ⟨fault, rfl⟩)
  | ok checked =>
      by_cases missing : checked = some 0
      · subst missing
        rw [affected_by_missing read]
        simp
      · have passes : ∃ own, (.ok checked : Except Fault (Option Int)) = .ok own ∧ own ≠ some 0 :=
          ⟨checked, rfl, missing⟩
        have changes : FailsBy Failure.IsFault (affectedByModification batch reply) ↔
            ∃ entry, reply.Answers batch .changes entry ∧
              FailsBy Failure.IsFault (affectedByChanges batch entry) := by
          simp only [← answer_to_iff distinct]
          cases answer : reply.answerTo? batch .changes with
          | none =>
              rw [affected_by_unanswered read missing answer]
              simpa using not_fails_ok
          | some entry =>
              rw [affected_by_changes read missing answer]
              simp
        rw [changes]
        simp [missing]

theorem modification_fault_iff (distinct : batch.roles.Nodup) (received : reply.IsReceived) :
    FailsBy Failure.IsFault (affectedByModification batch reply) ↔ reply.CountEscapes batch := by
  rw [modification_fails_iff distinct, check_unreadable_iff distinct received,
    check_missing_iff distinct, row_missing_fault_iff]
  have changing {entry : ResponseEntry} (answers : reply.Answers batch .changes entry) :
      FailsBy Failure.IsFault (affectedByChanges batch entry) ↔
        entry.IsUnreadable ∨ (entry.Holds 0 ∧ batch.isKeyed = true ∧ ¬batch.key.IsWritable) :=
    changes_fault_iff (answer_received received answers)
  constructor
  · rintro (⟨entry, answers, unreadable⟩ | ⟨⟨entry, answers, none⟩, unwritable⟩ |
      ⟨passes, entry, answers, fails⟩)
    · exact .check answers unreadable
    · exact .missing answers none unwritable
    · rcases (changing answers).mp fails with unreadable | ⟨none, keyed, unwritable⟩
      · exact .changes passes answers unreadable
      · exact .unchanged passes answers none keyed unwritable
  · intro escapes
    cases escapes with
    | check answers unreadable => exact .inl ⟨_, answers, unreadable⟩
    | missing answers none unwritable => exact .inr (.inl ⟨⟨_, answers, none⟩, unwritable⟩)
    | changes passes answers unreadable =>
        exact .inr (.inr ⟨passes, _, answers, (changing answers).mpr (.inl unreadable)⟩)
    | unchanged passes answers none keyed unwritable =>
        have fails := (changing answers).mpr (.inr ⟨none, keyed, unwritable⟩)
        exact .inr (.inr ⟨passes, _, answers, fails⟩)

theorem row_missing_not_canceled : ¬FailsBy Failure.IsCanceled (rowMissing batch : Outcome Int) := by
  by_cases writable : batch.key.IsWritable ∧ batch.expectedVersion.IsWritable
  · obtain ⟨error, raised, -⟩ := row_missing_violation writable.1 writable.2
    rw [raised, fails_error]
    exact id
  · rw [row_missing_fault writable, fails_error]
    exact id

theorem row_changed_not_canceled : ¬FailsBy Failure.IsCanceled (rowChanged batch : Outcome Int) := by
  by_cases writable : batch.key.IsWritable
  · obtain ⟨error, raised, -⟩ := row_changed_violation writable
    rw [raised, fails_error]
    exact id
  · rw [row_changed_fault writable, fails_error]
    exact id

theorem changes_not_canceled (entry : ResponseEntry) :
    ¬FailsBy Failure.IsCanceled (affectedByChanges batch entry) := by
  rw [affectedByChanges, fails_bind]
  rintro (failed | ⟨counted, -, failed⟩)
  · exact Outcome.lift_not_canceled _ failed
  · cases counted with
    | none => exact not_fails_ok failed
    | some changes =>
        dsimp only at failed
        split at failed
        · exact row_changed_not_canceled failed
        · exact not_fails_ok failed

theorem affected_not_canceled : ¬FailsBy Failure.IsCanceled (affected batch reply) := by
  unfold affected
  split
  · rw [affectedByModification, fails_bind]
    rintro (failed | ⟨found, -, failed⟩)
    · exact Outcome.lift_not_canceled _ failed
    · split at failed
      · exact row_missing_not_canceled failed
      · split at failed
        · exact not_fails_ok failed
        · exact changes_not_canceled _ failed
  · exact not_fails_ok

theorem affected_fault_iff {operation : Sql.Operation} {sql : Text} {parameters : Parameters}
    (made : Batch.Modification operation sql parameters batch) (received : reply.IsReceived) :
    FailsBy Failure.IsFault (affected batch reply) ↔
      operation.modifies = true ∧ reply.CountEscapes batch := by
  by_cases modifies : operation.modifies = true
  · rw [affected_of_modifies modifies made, modification_fault_iff made.roles_distinct received]
    exact (and_iff_right modifies).symm
  · rw [affected, made.main_operation, if_neg modifies]
    exact iff_of_false not_fails_ok fun both => modifies both.1

end Reply
end SqlPipeline
