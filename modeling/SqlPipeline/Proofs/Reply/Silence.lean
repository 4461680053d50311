import SqlPipeline.Proofs.Reply.Concurrency

/-!
What a keyed modification reports when counts are missing from the reply. The check of the row stops
the modification only when it counts no row. An answer that is silent about the changes reports none,
and that is the one way to report none: a count of no changes is a conflict.
-/

namespace SqlPipeline
namespace Reply

/-- The check of a row does not count zero rows, and can be read where it is answered. -/
def PassesCheck (reply : Reply) (batch : Batch) : Prop :=
  ∀ entry, reply.Answers batch .verify entry -> entry.IsSilent ∨ ∃ n, n ≠ 0 ∧ entry.Holds n

section

variable {operation : Sql.Operation} {sql : Text} {parameters : Parameters} {batch : Batch}
  {reply : Reply}

theorem passes_check_iff (distinct : batch.roles.Nodup) :
    reply.PassesCheck batch ↔
      ∃ checked, firstInteger (reply.answerTo? batch .verify) = .ok checked ∧ checked ≠ some 0 := by
  cases answer : reply.answerTo? batch .verify with
  | none =>
      refine iff_of_true ?_ ⟨none, rfl, by simp⟩
      intro entry answers
      rw [← answer_to_iff distinct, answer] at answers
      cases answers
  | some entry =>
      have answers := (answer_to_iff distinct).mp answer
      constructor
      · intro passes
        rcases passes entry answers with silent | ⟨n, present, holds⟩
        · exact ⟨none, first_integer_none_iff.mpr silent, by simp⟩
        · exact ⟨some n, first_integer_iff.mpr holds, by simpa using present⟩
      · rintro ⟨checked, read, present⟩ other answersToo
        rw [← answer_to_iff distinct, answer] at answersToo
        cases answersToo
        cases checked with
        | none => exact .inl (first_integer_none_iff.mp read)
        | some n => exact .inr ⟨n, by simpa using present, first_integer_iff.mp read⟩

/-- Nothing is reported unless the check of the row is passed. -/
theorem passes_of_affected {n : Int} (distinct : batch.roles.Nodup)
    (reported : affectedByModification batch reply = .ok n) : reply.PassesCheck batch := by
  obtain ⟨checked, read, rest⟩ := Outcome.bind_eq_ok.mp reported
  refine (passes_check_iff distinct).mpr ⟨checked, Outcome.lift_eq_ok.mp read, ?_⟩
  intro missing
  rw [if_pos missing] at rest
  exact row_missing_not_ok n rest

theorem changes_ok_iff (keyed : batch.isKeyed = true) (entry : Wire.ResponseEntry) (n : Int) :
    affectedByChanges batch entry = .ok n ↔
      (entry.Holds n ∧ n ≠ 0) ∨ (entry.IsSilent ∧ n = 0) := by
  cases read : firstInteger (some entry) with
  | error fault =>
      have unread : affectedByChanges batch entry = .error (.fault fault) := by
        rw [affectedByChanges, read]
        rfl
      rw [unread]
      refine iff_of_false (by simp) ?_
      rw [← first_integer_iff, ← first_integer_none_iff, read]
      simp
  | ok counted =>
      cases counted with
      | none =>
          have silent := first_integer_none_iff.mp read
          rw [changes_of_silent silent, ← first_integer_iff, read]
          simp [silent, eq_comm]
      | some changes =>
          have holds := first_integer_iff.mp read
          rw [changes_of_holds holds, ← first_integer_iff, ← first_integer_none_iff, read]
          simp only [Except.ok.injEq, Option.some.injEq, reduceCtorEq, false_and, or_false]
          by_cases unchanged : changes = 0
          · rw [if_pos ⟨unchanged, keyed⟩]
            exact iff_of_false (row_changed_not_ok n) fun both => both.2 (both.1 ▸ unchanged)
          · rw [if_neg fun both => unchanged both.1, Except.ok.injEq]
            exact ⟨fun same => ⟨same, same ▸ unchanged⟩, fun both => both.1⟩

/-- What a keyed modification reports when the count of changes is answered. -/
theorem affected_of_answer {entry : Wire.ResponseEntry}
    (made : Batch.Modification operation sql parameters batch) (keyed : batch.isKeyed = true)
    (answer : reply.Answers batch .changes entry) (n : Int) :
    affected batch reply = .ok n ↔
      reply.PassesCheck batch ∧ ((entry.Holds n ∧ n ≠ 0) ∨ (entry.IsSilent ∧ n = 0)) := by
  have distinct := made.roles_distinct
  have found := (answer_to_iff distinct).mpr answer
  rw [affected_of_modifies (made.modifies_of_keyed keyed) made, ← changes_ok_iff keyed]
  constructor
  · intro reported
    have passes := passes_of_affected distinct reported
    obtain ⟨checked, read, present⟩ := (passes_check_iff distinct).mp passes
    rw [affected_by_changes read present found] at reported
    exact ⟨passes, reported⟩
  · rintro ⟨passes, reported⟩
    obtain ⟨checked, read, present⟩ := (passes_check_iff distinct).mp passes
    rw [affected_by_changes read present found]
    exact reported

/-- A number other than zero is the count of changes that was answered. -/
theorem counted_of_affected {n : Int} (made : Batch.Modification operation sql parameters batch)
    (keyed : batch.isKeyed = true) (notZero : n ≠ 0) (reported : affected batch reply = .ok n) :
    ∃ entry : Wire.ResponseEntry, reply.Answers batch .changes entry ∧ entry.Holds n := by
  have distinct := made.roles_distinct
  cases found : reply.answerTo? batch .changes with
  | none =>
      rw [affected_of_modifies (made.modifies_of_keyed keyed) made] at reported
      obtain ⟨checked, read, present⟩ :=
        (passes_check_iff distinct).mp (passes_of_affected distinct reported)
      rw [affected_by_unanswered read present found, Except.ok.injEq] at reported
      exact absurd reported.symm notZero
  | some entry =>
      have answer := (answer_to_iff distinct).mp found
      rcases ((affected_of_answer made keyed answer n).mp reported).2 with ⟨holds, _⟩ | ⟨_, zero⟩
      · exact ⟨entry, answer, holds⟩
      · exact absurd zero notZero

end

/-- A keyed modification whose changes are answered reports the count of changes, which is not zero,
and reports none only when that answer is silent. No number is reported when the check counts no row,
and none but zero without a count of changes. -/
theorem keyed_modification_reports {operation : Sql.Operation} {sql : Text}
    {parameters : Parameters} {batch : Batch} {reply : Reply}
    (built : Batch.ofModification operation sql parameters = .ok batch)
    (keyed : batch.isKeyed = true) :
    (∀ entry : Wire.ResponseEntry, reply.Answers batch .changes entry ->
      ∀ n, affected batch reply = .ok n ↔
        reply.PassesCheck batch ∧ ((entry.Holds n ∧ n ≠ 0) ∨ (entry.IsSilent ∧ n = 0))) ∧
    (∀ entry : Wire.ResponseEntry, reply.Answers batch .verify entry -> entry.Holds 0 ->
      ∀ n, affected batch reply ≠ .ok n) ∧
    (∀ n, n ≠ 0 -> affected batch reply = .ok n ->
      ∃ entry : Wire.ResponseEntry, reply.Answers batch .changes entry ∧ entry.Holds n) := by
  have made := Batch.of_modification_iff.mp built
  refine ⟨fun entry answer n => affected_of_answer made keyed answer n, ?_, ?_⟩
  · intro entry answer missing n reported
    rw [affected_of_modifies (made.modifies_of_keyed keyed) made] at reported
    have passes := passes_of_affected made.roles_distinct reported
    have counted := first_integer_iff.mpr missing
    rcases passes entry answer with silent | ⟨found, present, holds⟩
    · rw [first_integer_none_iff.mpr silent] at counted
      cases counted
    · rw [first_integer_iff.mpr holds] at counted
      cases counted
      exact present rfl
  · intro n notZero reported
    exact counted_of_affected made keyed notZero reported

/-- A row that is there and changed once is reported as one change. -/
theorem keyed_modification_reports_one :
    ∃ batch, Batch.ofModification .update flagUpdate (.ofList [flagKey 1]) = .ok batch ∧
      batch.isKeyed = true ∧ affected batch (ofCounts [1, 1, 1]) = .ok 1 := by
  obtain ⟨batch, built, keyed, verify, changes⟩ := flag_update_built (n := 1) (by decide)
  refine ⟨batch, built, keyed, ?_⟩
  have passes : (ofCounts [1, 1, 1]).PassesCheck batch := by
    refine (passes_check_iff (Batch.of_modification_iff.mp built).roles_distinct).mpr ⟨some 1, ?_⟩
    rw [answerTo?, verify]
    exact ⟨rfl, by decide⟩
  have answer : (ofCounts [1, 1, 1]).Answers batch .changes (countEntry 1) :=
    ⟨2, Batch.role_of_index changes, rfl⟩
  exact ((keyed_modification_reports built keyed).1 _ answer 1).mpr
    ⟨passes, .inl ⟨count_entry_holds 1, by decide⟩⟩

/-- An answer without rows. -/
def silentEntry : Wire.ResponseEntry :=
  ⟨none, some ⟨"execute", some ⟨[], [], 0, none⟩⟩, none⟩

/-- The row is there and the changes are not counted. -/
def uncounted : Reply :=
  ⟨⟨none, none, [countEntry 1, silentEntry, silentEntry]⟩, [], [], 200⟩

/-- A keyed update that reports nothing changed, and no conflict. -/
theorem uncounted_changes_report_none :
    ∃ batch, Batch.ofModification .update flagUpdate (.ofList [flagKey 1]) = .ok batch ∧
      batch.isKeyed = true ∧ affected batch uncounted = .ok 0 := by
  obtain ⟨batch, built, keyed, verify, changes⟩ := flag_update_built (n := 1) (by decide)
  have made := Batch.of_modification_iff.mp built
  refine ⟨batch, built, keyed, ?_⟩
  have passes : uncounted.PassesCheck batch := by
    refine (passes_check_iff made.roles_distinct).mpr ⟨some 1, ?_⟩
    rw [answerTo?, verify]
    exact ⟨rfl, by decide⟩
  have answer : uncounted.Answers batch .changes silentEntry :=
    ⟨2, Batch.role_of_index changes, rfl⟩
  exact (affected_of_answer made keyed answer 0).mpr
    ⟨passes, .inr ⟨.inr ⟨_, rfl, .inl rfl⟩, rfl⟩⟩

end Reply
end SqlPipeline
