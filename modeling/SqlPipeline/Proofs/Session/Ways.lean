import SqlPipeline.Proofs.Batch.Mains
import SqlPipeline.Proofs.Batch.Shape
import SqlPipeline.Proofs.Session.Posting

/-!
Two ways to run a command. All its statements go into one batch, or each has a batch of its own, in
which other requests stand beside it. The main statements are the same, and the first statement that
cannot be bound fails either way, unless one before it has failed in its own exchange.
-/

namespace SqlPipeline

open Operation (runIn)

namespace Task

variable {string : ConnectionString} {answers : Nat -> Http.Answer} {tasks : List Task}
  {index place handed : Nat} {task : Task} {failure raised : Failure} {counts : List Int}
  {outcome : Outcome Int}

/-- The tasks before a place have come to counts, and the one there fails. -/
def FailsAt (string : ConnectionString) (answers : Nat -> Http.Answer) (tasks : List Task)
    (place : Nat) (failure : Failure) : Prop :=
  ∃ counts task, counts.length = place ∧ Counted string answers tasks counts ∧
    tasks[place]? = some task ∧ task.count string (answers place) = .error failure

theorem count_of_unbuilt (unbuilt : task.batch = .error failure) (answer : Http.Answer) :
    task.count string answer = .error failure := by
  rw [count, unbuilt]
  rfl

/-- No task is counted from the first one on that has no batch. -/
theorem Counted.before_unbuilt (counted : Counted string answers tasks counts)
    (position : tasks[index]? = some task) (unbuilt : task.batch = .error failure) :
    counts.length ≤ index := by
  by_contra beyond
  have inside : index < counts.length := Nat.lt_of_not_le beyond
  obtain ⟨other, stands, found⟩ := counted index _ (List.getElem?_eq_getElem inside)
  cases position.symm.trans stands
  rw [count_of_unbuilt unbuilt] at found
  cases found

/-- Where a task has no batch, that is what the run fails by, or it has failed at one before. -/
theorem FailsAt.before_unbuilt (fails : FailsAt string answers tasks place raised)
    (position : tasks[index]? = some task) (unbuilt : task.batch = .error failure) :
    place < index ∨ place = index ∧ raised = failure := by
  obtain ⟨counts, other, rfl, counted, stands, failed⟩ := fails
  rcases Nat.lt_or_eq_of_le (counted.before_unbuilt position unbuilt) with before | rfl
  · exact .inl before
  · cases position.symm.trans stands
    rw [count_of_unbuilt unbuilt] at failed
    exact .inr ⟨rfl, (Except.error.inj failed).symm⟩

theorem Ending.fails (ending : Ending string answers tasks handed outcome)
    (position : tasks[index]? = some task) (unbuilt : task.batch = .error failure) :
    ∃ place raised, outcome = .error raised ∧ FailsAt string answers tasks place raised := by
  cases ending with
  | finished counted all =>
      have within := counted.before_unbuilt position unbuilt
      have inside := (List.getElem?_eq_some_iff.mp position).1
      omega
  | @unbuilt counts other raised counted next refused =>
      exact ⟨_, raised, rfl, counts, other, rfl, counted, next, count_of_unbuilt refused _⟩
  | @failed counts other batch raised counted next built refused =>
      exact ⟨_, raised, rfl, counts, other, rfl, counted, next, refused⟩

end Task

namespace Command

variable {command : Command} {session : Session}

/-- What becomes of the batch of all statements: it has them as they are bound, or fails by the
first that cannot be bound. -/
inductive Gathers (command : Command) : Outcome Batch -> Prop where
  | bound {sents : List Wire.Statement} {batch : Batch}
      (each : List.Forall₂ (Batch.IsBoundTo command.parameters) (Sql.split command.text) sents)
      (requests : batch.requestsOf .main = sents.map .execute) : Gathers command (.ok batch)
  | refused {earlier later : List Text} {statement : Text} {failure : Failure}
      (cut : Sql.split command.text = earlier ++ statement :: later)
      (each : ∀ other ∈ earlier, ∃ sent, Batch.IsBoundTo command.parameters other sent)
      (unbound : Batch.bind statement command.parameters = .error failure) :
      Gathers command (.error failure)

theorem batch_gathers (nonempty : Sql.split command.text ≠ []) : command.Gathers command.batch := by
  rw [batch_eq nonempty]
  cases ran : (Sql.split command.text).mapM fun statement =>
      Batch.bind statement command.parameters with
  | ok sents =>
      have each := Outcome.map_steps_iff.mp ran
      obtain ⟨batch, built, requests⟩ := Batch.of_statements_built each (some command.text)
      rw [built]
      exact .bound each requests
  | error failure =>
      obtain ⟨earlier, statement, later, sents, cut, passed, unbound⟩ :=
        Outcome.map_steps_first ran
      have each := Outcome.map_steps_iff.mp passed
      rw [cut, Batch.of_statements_fails each unbound later (some command.text)]
      exact .refused cut (Outcome.map_steps_each passed) unbound

/-- One by one the batches of statements have each its own main statement. -/
theorem main_requests_of_tasks {statements : List Text} {sents : List Wire.Statement}
    {batches : List Batch}
    (each : List.Forall₂ (Batch.IsBoundTo command.parameters) statements sents)
    (built : (statements.map fun statement => Task.batch ⟨command, statement⟩) =
      batches.map .ok) :
    mainRequests batches = sents.map .execute := by
  induction each generalizing batches with
  | nil =>
      rw [List.map_nil, eq_comm, List.map_eq_nil_iff] at built
      rw [built]
      rfl
  | @cons statement sent statements sents own _ ih =>
      obtain ⟨batch, later, rfl, first, others⟩ := List.map_eq_cons_iff.mp built.symm
      obtain ⟨main, bound, requests⟩ := (Batch.of_modification_iff.mp first.symm).main_bound
      cases own.symm.trans bound
      rw [main_requests_cons requests, ih others.symm, List.map_cons]

/-- A run in one batch and a run for effect agree. -/
structure WaysAgree (command : Command) (session : Session) : Prop where
  built : (∃ batch, command.batch = .ok batch) ↔
    ∀ statement ∈ Sql.split command.text,
      ∃ sent, Batch.bind statement command.parameters = .ok sent
  /-- That batch is what is posted for a scalar or for tables. -/
  together : ∀ batch, command.batch = .ok batch ->
    (runIn command.executeScalar session).2 =
        session.openConnection.posting (command.posts session.connection.string batch) ∧
      (runIn command.executeReader session).2 =
        session.openConnection.posting (command.posts session.connection.string batch)
  /-- A run for effect that comes to a count has posted the main statements of the one batch. -/
  mains : ∀ batch, command.batch = .ok batch ->
    ∃ sents, List.Forall₂ (Batch.IsBoundTo command.parameters) (Sql.split command.text) sents ∧
      batch.requestsOf .main = sents.map .execute ∧
      ∀ count, (runIn command.execute session).1 = .ok count ->
        ∃ batches : List Batch, (Task.ofCommand command).map Task.batch = batches.map .ok ∧
          (runIn command.execute session).2.posts.map Http.Post.body =
            session.posts.map Http.Post.body ++ batches.map Batch.body ∧
          mainRequests batches = batch.requestsOf .main
  /-- The first statement that cannot be bound fails either way, unless the run for effect has
  failed at one before. -/
  refused : ∀ failure, command.batch = .error failure ->
    ∃ earlier statement later, Sql.split command.text = earlier ++ statement :: later ∧
      (∀ other ∈ earlier, ∃ sent, Batch.bind other command.parameters = .ok sent) ∧
      Batch.bind statement command.parameters = .error failure ∧
      runIn command.executeScalar session = (.error failure, session) ∧
      runIn command.executeReader session = (.error failure, session) ∧
      ∃ place raised, (runIn command.execute session).1 = .error raised ∧
        Task.FailsAt session.connection.string session.laterAnswers (Task.ofCommand command) place
          raised ∧
        (place < earlier.length ∨ place = earlier.length ∧ raised = failure)

theorem built_iff (nonempty : Sql.split command.text ≠ []) :
    (∃ batch, command.batch = .ok batch) ↔
      ∀ statement ∈ Sql.split command.text,
        ∃ sent, Batch.bind statement command.parameters = .ok sent := by
  have gathers := batch_gathers nonempty
  generalize command.batch = outcome at gathers ⊢
  cases gathers with
  | bound each requests =>
      exact iff_of_true ⟨_, rfl⟩ (Outcome.map_steps_each (Outcome.map_steps_iff.mpr each))
  | @refused earlier later statement failure cut each unbound =>
      refine iff_of_false nofun fun all => ?_
      obtain ⟨sent, bound⟩ := all statement (by rw [cut]; simp)
      cases bound.symm.trans unbound

theorem ask_posts (sound : session.connection.IsSound) {batch : Batch}
    (built : command.batch = .ok batch) :
    (runIn command.ask session).2 =
      session.openConnection.posting (command.posts session.connection.string batch) := by
  rw [run_ask sound built]

theorem scalar_posts (sound : session.connection.IsSound) {batch : Batch}
    (built : command.batch = .ok batch) :
    (runIn command.executeScalar session).2 =
      session.openConnection.posting (command.posts session.connection.string batch) :=
  (Operation.run_followed scalar_quiet session).trans (ask_posts sound built)

theorem reader_posts (sound : session.connection.IsSound) {batch : Batch}
    (built : command.batch = .ok batch) :
    (runIn command.executeReader session).2 =
      session.openConnection.posting (command.posts session.connection.string batch) :=
  (Operation.run_followed reader_quiet session).trans (ask_posts sound built)

/-- A run for effect that comes to a count posts the batches of its statements, and nothing else. -/
theorem execute_posted (sound : session.connection.IsSound) {count : Int}
    (total : (runIn command.execute session).1 = .ok count) :
    ∃ batches : List Batch, (Task.ofCommand command).map Task.batch = batches.map .ok ∧
      (runIn command.execute session).2.posts.map Http.Post.body =
        session.posts.map Http.Post.body ++ batches.map Batch.body := by
  have unposted : (session.readied command.text).posts = session.posts :=
    Session.readied_of (P := fun later => later.posts = session.posts) rfl rfl command.text
  obtain ⟨batches, tasks, bodies⟩ := (execute_runs command sound).posted total
  rw [unposted] at bodies
  exact ⟨batches, tasks, bodies⟩

/-- A run for effect does not come past a statement that cannot be bound. -/
theorem execute_refused (sound : session.connection.IsSound) {earlier later : List Text}
    {statement : Text} {failure : Failure}
    (cut : Sql.split command.text = earlier ++ statement :: later)
    (unbound : Batch.bind statement command.parameters = .error failure) :
    ∃ place raised, (runIn command.execute session).1 = .error raised ∧
      Task.FailsAt session.connection.string session.laterAnswers (Task.ofCommand command) place
        raised ∧
      (place < earlier.length ∨ place = earlier.length ∧ raised = failure) := by
  have position : (Task.ofCommand command)[earlier.length]? = some ⟨command, statement⟩ := by
    rw [Task.ofCommand, List.getElem?_map, cut, List.getElem?_append_right (Nat.le_refl _),
      Nat.sub_self]
    rfl
  have unbuilt : Task.batch ⟨command, statement⟩ = .error failure :=
    Batch.of_modification_fails unbound _
  obtain ⟨batches, through⟩ := RunsThrough.of_runs (execute_runs command sound)
  obtain ⟨place, raised, outcome, fails⟩ := through.of_readied.ending.fails position unbuilt
  exact ⟨place, raised, outcome, fails, fails.before_unbuilt position unbuilt⟩

/-- A command with statements runs the same ones in one batch as it does one by one. -/
theorem ways_agree (sound : session.connection.IsSound) (nonempty : Sql.split command.text ≠ []) :
    WaysAgree command session := by
  have gathers := batch_gathers nonempty
  constructor
  · exact built_iff nonempty
  · exact fun batch built => ⟨scalar_posts sound built, reader_posts sound built⟩
  · intro batch built
    rw [built] at gathers
    cases gathers with
    | bound each requests =>
        refine ⟨_, each, requests, fun count total => ?_⟩
        obtain ⟨batches, tasks, bodies⟩ := execute_posted sound total
        refine ⟨batches, tasks, bodies, ?_⟩
        rw [Task.ofCommand, List.map_map] at tasks
        rw [requests]
        exact main_requests_of_tasks each tasks
  · intro failure failed
    rw [failed] at gathers
    cases gathers with
    | @refused earlier later statement failure cut each unbound =>
        exact ⟨earlier, statement, later, cut, each, unbound, scalar_refused failed session,
          reader_refused failed session, execute_refused sound cut unbound⟩

/-- The second of two statements has a name without a value. -/
def halfBound : Command :=
  ⟨"PRAGMA a; SELECT @x", none, .int 5, .empty⟩

theorem ways_agree_half_bound :
    goneSession.connection.IsSound ∧ Sql.split halfBound.text ≠ [] ∧
      (¬∃ batch, halfBound.batch = .ok batch) ∧ WaysAgree halfBound goneSession := by
  have sound : goneSession.connection.IsSound := Connection.make_sound _ _
  have nonempty : Sql.split halfBound.text ≠ [] := by decide +kernel
  have unbuilt : ¬∃ batch, halfBound.batch = .ok batch := by decide +kernel
  exact ⟨sound, nonempty, unbuilt, ways_agree sound nonempty⟩

end Command

end SqlPipeline
