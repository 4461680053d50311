import SqlPipeline.Proofs.Reply.Concurrency
import SqlPipeline.Proofs.Sql.Classification

/-!
What an insertion reports when it is run for its effect. Its kind is that of the keywords it
mentions, so that it is checked like a keyed update exactly when it mentions UPDATE, a table is
resolved for it and a key with a value is found in it.
-/

namespace SqlPipeline
namespace Reply

/-- A statement is taken for the update of a row that is given by key. -/
def TakenForKeyed (sql : Text) (parameters : Parameters) : Prop :=
  Sql.MentionsUpdate sql ∧ (Sql.TableName.quoted? sql).isSome ∧
    ∃ key version, Batch.NamesRow sql parameters key version

/-- What an insertion is sent as, and reports, when it is not taken for the update of a keyed row. It
counts as an insertion unless it mentions UPDATE; then it is counted like an update without a key. -/
structure IsUnchecked (sql : Text) (statement : Wire.Statement) (batch : Batch) : Prop where
  unkeyed : batch.isKeyed = false
  no_error : ∀ reply error, affected batch reply ≠ .error (.library error)
  alone : ¬Sql.MentionsUpdate sql ->
    batch = ⟨sql, [Batch.execute statement .main .insert, Batch.closing], .null, .null⟩
  counted : ¬Sql.MentionsUpdate sql -> ∀ (reply : Reply) (entry : Wire.ResponseEntry) result,
    reply.Answers batch .main entry -> entry.result? = some result ->
      affected batch reply = .ok result.affected
  uncounted : ¬Sql.MentionsUpdate sql -> ∀ reply : Reply,
    (∀ entry : Wire.ResponseEntry, reply.Answers batch .main entry -> entry.result? = none) ->
      affected batch reply = .ok 0
  changes : Sql.MentionsUpdate sql -> (Sql.TableName.quoted? sql).isSome ->
    ∀ (reply : Reply) n, reply.Counts batch .changes n -> affected batch reply = .ok n
  unresolved : Sql.MentionsUpdate sql -> Sql.TableName.quoted? sql = none ->
    ∀ reply, affected batch reply = .ok 0

section

variable {operation : Sql.Operation} {sql : Text} {parameters : Parameters} {batch : Batch}
  {reply : Reply}

theorem verify_of_unkeyed (unkeyed : batch.isKeyed = false) : batch.indexOf? .verify = none := by
  rw [Batch.index_of_eq, List.findIdx?_eq_none_iff]
  intro role member
  by_cases verify : role = .verify
  · rw [Batch.isKeyed, List.contains_eq_mem, decide_eq_false_iff_not] at unkeyed
    exact absurd (verify ▸ member) unkeyed
  · simpa using verify

theorem unkeyed_changes_no_error (unkeyed : batch.isKeyed = false) (entry : Wire.ResponseEntry)
    (error : LibraryError) : affectedByChanges batch entry ≠ .error (.library error) := by
  intro raised
  rw [affectedByChanges] at raised
  cases read : firstInteger (some entry) with
  | error fault =>
      rw [read] at raised
      cases raised
  | ok counted =>
      rw [read] at raised
      cases counted with
      | none => cases raised
      | some changes =>
          have noConflict : ¬(changes = 0 ∧ batch.isKeyed = true) := by
            rw [unkeyed]
            exact fun both => Bool.false_ne_true both.2
          change (if changes = 0 ∧ batch.isKeyed = true then _ else _) = _ at raised
          rw [if_neg noConflict] at raised
          cases raised

/-- Without a key no error of the library comes of a reply. -/
theorem unkeyed_no_error (unkeyed : batch.isKeyed = false) (error : LibraryError) :
    affected batch reply ≠ .error (.library error) := by
  intro raised
  have verified : firstInteger (reply.answerTo? batch .verify) = .ok none := by
    rw [answerTo?, verify_of_unkeyed unkeyed]
    rfl
  by_cases modifies : batch.mainOperation.modifies = true
  · rw [affected, if_pos modifies] at raised
    cases found : reply.answerTo? batch .changes with
    | none =>
        rw [affected_by_unanswered verified (by simp) found] at raised
        cases raised
    | some entry =>
        rw [affected_by_changes verified (by simp) found] at raised
        exact unkeyed_changes_no_error unkeyed entry error raised
  · rw [affected, if_neg modifies] at raised
    cases raised

theorem affected_of_insertion (made : Batch.Modification .insert sql parameters batch) :
    affected batch reply = .ok (affectedByMain batch reply) := by
  rw [affected, made.main_operation]
  rfl

theorem affected_by_main_of_answer {entry : Wire.ResponseEntry} {result : Wire.StatementResult}
    (distinct : batch.roles.Nodup) (answer : reply.Answers batch .main entry)
    (executed : entry.result? = some result) : affectedByMain batch reply = result.affected := by
  rw [affectedByMain, (answer_to_iff distinct).mpr answer, Option.bind_some, executed]

theorem affected_by_main_of_silence (distinct : batch.roles.Nodup)
    (silent : ∀ entry : Wire.ResponseEntry, reply.Answers batch .main entry ->
      entry.result? = none) : affectedByMain batch reply = 0 := by
  rw [affectedByMain]
  cases found : reply.answerTo? batch .main with
  | none => rfl
  | some entry =>
      rw [Option.bind_some, silent entry ((answer_to_iff distinct).mp found)]

theorem affected_of_unresolved (modifies : operation.modifies = true)
    (unresolved : Batch.modifiedTable? operation sql = none)
    (made : Batch.Modification operation sql parameters batch) : affected batch reply = .ok 0 := by
  rw [affected_of_modifies modifies made]
  cases made with
  | plain => rfl
  | counted statement table bound resolved => simp [unresolved] at resolved
  | keyed statement table row argument bound resolved => simp [unresolved] at resolved

/-- A mention of UPDATE makes an insertion an update; not taken for one with a key, it is built
whenever it is bound. -/
theorem unchecked_of_mention {statement : Wire.Statement}
    (bound : Batch.bind sql parameters = .ok statement)
    (untaken : ¬TakenForKeyed sql parameters) (mentions : Sql.MentionsUpdate sql) :
    ∃ batch, Batch.ofModification .update sql parameters = .ok batch ∧
      IsUnchecked sql statement batch := by
  have table : Batch.modifiedTable? .update sql = Sql.TableName.quoted? sql :=
    Batch.modified_table_eq rfl sql
  have unchecked : ∀ batch, Batch.Modification .update sql parameters batch ->
      batch.isKeyed = false -> IsUnchecked sql statement batch := by
    intro batch made unkeyed
    refine ⟨unkeyed, fun reply error => unkeyed_no_error unkeyed error, absurd mentions,
      absurd mentions, absurd mentions, ?_, ?_⟩
    · intro _ resolved reply n counts
      rw [← table] at resolved
      exact affected_of_unkeyed_counts rfl resolved made unkeyed counts
    · intro _ unresolved reply
      rw [← table] at unresolved
      exact affected_of_unresolved rfl unresolved made
  cases resolved : Batch.modifiedTable? .update sql with
  | none =>
      have made := Batch.Modification.plain statement bound resolved
      exact ⟨_, Batch.of_modification_iff.mpr made, unchecked _ made rfl⟩
  | some name =>
      have isSome : (Sql.TableName.quoted? sql).isSome := by rw [← table, resolved]; rfl
      cases found : Batch.keyedRow? sql parameters with
      | none =>
          have made := Batch.Modification.counted statement name bound resolved found
          exact ⟨_, Batch.of_modification_iff.mpr made, unchecked _ made rfl⟩
      | some row =>
          have names := Batch.keyed_row_iff.mp found
          exact absurd ⟨mentions, isSome, _, _, names⟩ untaken

/-- Without a mention of UPDATE an insertion is sent alone, and reports its own count. -/
theorem unchecked_of_silence {statement : Wire.Statement}
    (bound : Batch.bind sql parameters = .ok statement) (silent : ¬Sql.MentionsUpdate sql) :
    ∃ batch, Batch.ofModification .insert sql parameters = .ok batch ∧
      IsUnchecked sql statement batch := by
  have made : Batch.Modification .insert sql parameters _ := .plain statement bound rfl
  have distinct := made.roles_distinct
  refine ⟨_, Batch.of_modification_iff.mpr made, rfl, fun reply error => unkeyed_no_error rfl error,
    fun _ => rfl, ?_, ?_, fun mentions => absurd mentions silent,
    fun mentions => absurd mentions silent⟩
  · intro _ reply entry result answer executed
    rw [affected_of_insertion made, affected_by_main_of_answer distinct answer executed]
  · intro _ reply unanswered
    rw [affected_of_insertion made, affected_by_main_of_silence distinct unanswered]

end

/-- An insertion that is bound is checked like a keyed update when it is taken for one, and not
otherwise. -/
theorem insertion_outcome {sql : Text} {parameters : Parameters} {statement : Wire.Statement}
    (insertion : Sql.classify .atStart sql = .insert)
    (bound : Batch.bind sql parameters = .ok statement) :
    (TakenForKeyed sql parameters ->
      ∀ batch, Batch.ofModification (Sql.classify .anywhere sql) sql parameters = .ok batch ->
        batch.isKeyed = true) ∧
    (¬TakenForKeyed sql parameters ->
      ∃ batch, Batch.ofModification (Sql.classify .anywhere sql) sql parameters = .ok batch ∧
        IsUnchecked sql statement batch) := by
  constructor
  · rintro ⟨mentions, resolved, named⟩ batch built
    rw [Sql.classify_mentioning mentions] at built
    refine (Batch.of_modification_iff.mp built).is_keyed_iff.mpr ⟨?_, named⟩
    rw [Batch.modified_table_eq rfl]
    exact resolved
  · intro untaken
    by_cases mentions : Sql.MentionsUpdate sql
    · rw [Sql.classify_mentioning mentions]
      exact unchecked_of_mention bound untaken mentions
    · rw [Sql.classify_insertion insertion mentions]
      exact unchecked_of_silence bound mentions

def plainInsertion : Text := "INSERT INTO \"T\" VALUES (1)"

/-- The answer to an insertion of one row. -/
def insertedEntry : Wire.ResponseEntry :=
  ⟨none, some ⟨"execute", some ⟨[], [], 1, none⟩⟩, none⟩

def inserted : Reply :=
  ⟨⟨none, none, [insertedEntry]⟩, [], [], 200⟩

/-- The insertion of one row reports one row. -/
theorem insertion_outcome_one_row :
    ∃ batch, Batch.ofModification (Sql.classify .anywhere plainInsertion) plainInsertion .empty =
        .ok batch ∧ batch.isKeyed = false ∧ affected batch inserted = .ok 1 := by
  have insertion : Sql.classify .atStart plainInsertion = .insert := by decide
  have bound : Batch.bind plainInsertion .empty = .ok ⟨plainInsertion, []⟩ := by
    rw [Batch.bind, Sql.number_of_plain (by decide)]
    rfl
  have silent : ¬Sql.MentionsUpdate plainInsertion := by
    unfold Sql.MentionsUpdate
    decide
  obtain ⟨batch, built, unchecked⟩ :=
    (insertion_outcome insertion bound).2 fun taken => silent taken.1
  refine ⟨batch, built, unchecked.unkeyed, ?_⟩
  have answer : inserted.Answers batch .main insertedEntry := by
    rw [unchecked.alone silent]
    exact ⟨0, rfl, rfl⟩
  exact unchecked.counted silent inserted insertedEntry _ answer rfl

def mentioningOpening : Text := "INSERT INTO \"T\" (\"updated\") SELECT 1 WHERE \"Id\" = "

/-- An insertion whose column is named after an update, and that selects by key. -/
def mentioningInsertion : Text := mentioningOpening ++ "@k"

/-- An insertion that a missing row makes a concurrency violation. -/
theorem mentioning_insertion_checked :
    Sql.classify .atStart mentioningInsertion = .insert ∧
    (∃ statement, Batch.bind mentioningInsertion (.ofList [flagKey 1]) = .ok statement) ∧
    ∃ batch, Batch.ofModification (Sql.classify .anywhere mentioningInsertion) mentioningInsertion
        (.ofList [flagKey 1]) = .ok batch ∧ batch.isKeyed = true ∧
      ∃ error, affected batch (ofCounts [0]) = .error (.library error) ∧
        error.kind = .concurrencyViolation := by
  have kind : Sql.classify .anywhere mentioningInsertion = .update := by decide
  have resolved : Batch.modifiedTable? .update mentioningInsertion = some "\"T\"".toList := by
    decide
  have predicate : Sql.KeyPredicate.find? mentioningInsertion = some ⟨"@k", none⟩ := by decide
  have one : (1 : Int) ≠ 0 := by decide
  have bound := flag_key_bound one mentioningOpening (by decide) (by decide)
  obtain ⟨batch, built, keyed, verify, _, key, version⟩ :=
    flag_keyed_built one bound resolved predicate
  have verified : firstInteger ((ofCounts [0]).answerTo? batch .verify) = .ok (some 0) := by
    rw [answerTo?, verify]
    exact first_integer_iff.mpr (count_entry_holds 0)
  have shown : batch.key.IsWritable := by
    rw [key]
    exact int_writable_iff.mpr (Nat.one_lt_pow (by decide) (by decide))
  have unversioned : batch.expectedVersion.IsWritable := ⟨_, by rw [version]; rfl⟩
  obtain ⟨error, raised, violation, _⟩ := row_missing_violation shown unversioned
  refine ⟨by decide, ⟨_, bound⟩, batch, by rw [kind]; exact built, keyed, error, ?_, violation⟩
  rw [affected_of_modifies rfl (Batch.of_modification_iff.mp built), affected_by_missing verified]
  exact raised

end Reply
end SqlPipeline
