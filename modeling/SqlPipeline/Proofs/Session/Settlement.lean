import SqlPipeline.Proofs.Reply.Escape
import SqlPipeline.Proofs.Session.Run

/-!
How commands settle. Whatever the server answers, a command gives its result or a library error, or
tells that it was canceled, but for what escapes: an exchange that breaks off, and a cell or a count
that is not reported.
-/

namespace SqlPipeline

open Operation (runIn)
open Outcome (FailsBy fails_bind fails_error fails_map not_fails_ok)

/-- An outcome that is canceled, or fails outside of the library's errors, exactly when it is said
to, and is a result or a library error otherwise. -/
structure Outcome.SettlesBut {α : Type} (canceled escapes : Prop) (outcome : Outcome α) : Prop where
  faults : FailsBy Failure.IsFault outcome ↔ escapes
  cancels : FailsBy Failure.IsCanceled outcome ↔ canceled
  otherwise : ¬escapes -> ¬canceled ->
    (∃ value, outcome = .ok value) ∨ ∃ error, outcome = .error (.library error)

theorem Outcome.settles_but {α : Type} {canceled escapes : Prop} {outcome : Outcome α}
    (fault : FailsBy Failure.IsFault outcome ↔ escapes)
    (cancel : FailsBy Failure.IsCanceled outcome ↔ canceled) :
    Outcome.SettlesBut canceled escapes outcome := by
  refine ⟨fault, cancel, fun contained completed => ?_⟩
  cases outcome with
  | ok value => exact .inl ⟨value, rfl⟩
  | error failure =>
      cases failure with
      | library error => exact .inr ⟨error, rfl⟩
      | fault own => exact absurd (fault.mp (fails_error.mpr trivial)) contained
      | canceled sql => exact absurd (cancel.mp (fails_error.mpr trivial)) completed

namespace Command

variable {command : Command} {string : ConnectionString} {batch : Batch} {answer : Http.Answer}

/-- No POST can be made, or none whose answer is kept, or the answer is overlong. -/
def BreaksOff (command : Command) (string : ConnectionString) (batch : Batch)
    (answer : Http.Answer) : Prop :=
  (∀ post, command.request string batch = .ok post -> post.loses answer = true) ∨ answer.IsOverlong

/-- The exchange breaks off, or its reply is one that escapes. -/
def EscapesBy (escape : Reply -> Prop) (command : Command) (string : ConnectionString)
    (batch : Batch) (answer : Http.Answer) : Prop :=
  command.BreaksOff string batch answer ∨
    ∃ reply, command.exchange string batch answer = .ok reply ∧ escape reply

/-- The request is made and then canceled. -/
def IsCanceled (command : Command) (string : ConnectionString) (batch : Batch)
    (answer : Http.Answer) : Prop :=
  (∃ post, command.request string batch = .ok post) ∧ answer = .canceled

theorem exchange_unsent {fault : Fault} (unsent : command.request string batch = .error fault) :
    command.exchange string batch answer = .error (.fault fault) := by
  rw [exchange, unsent]
  rfl

theorem exchange_sent {post : Http.Post} (sent : command.request string batch = .ok post) :
    command.exchange string batch answer =
      if post.loses answer then .error (.fault .badContent)
      else Reply.ofAnswer batch batch.body answer := by
  rw [exchange, sent]
  rfl

theorem exchange_fault_iff :
    FailsBy Failure.IsFault (command.exchange string batch answer) ↔
      command.BreaksOff string batch answer := by
  cases made : command.request string batch with
  | error fault =>
      rw [exchange_unsent made, fails_error]
      refine iff_of_true trivial (.inl fun post same => ?_)
      rw [made] at same
      cases same
  | ok post =>
      rw [exchange_sent made]
      by_cases lost : post.loses answer = true
      · rw [if_pos lost, fails_error]
        refine iff_of_true trivial (.inl fun own same => ?_)
        rw [made] at same
        cases same
        exact lost
      · rw [if_neg lost, Reply.answer_fault_iff]
        exact ⟨.inr, fun broken => broken.resolve_left fun lostAll => lost (lostAll post made)⟩

theorem exchange_canceled_iff :
    FailsBy Failure.IsCanceled (command.exchange string batch answer) ↔
      command.IsCanceled string batch answer := by
  cases made : command.request string batch with
  | error fault =>
      rw [exchange_unsent made, fails_error]
      refine iff_of_false id ?_
      rintro ⟨⟨post, same⟩, -⟩
      rw [made] at same
      cases same
  | ok post =>
      rw [exchange_sent made]
      by_cases lost : post.loses answer = true
      · rw [if_pos lost, fails_error]
        refine iff_of_false id ?_
        rintro ⟨-, rfl⟩
        cases lost
      · rw [if_neg lost, Reply.answer_canceled_iff]
        exact ⟨fun canceled => ⟨⟨post, made⟩, canceled⟩, And.right⟩

theorem exchange_received {reply : Reply}
    (replied : command.exchange string batch answer = .ok reply) : reply.IsReceived := by
  cases made : command.request string batch with
  | error fault =>
      rw [exchange_unsent made] at replied
      cases replied
  | ok post =>
      rw [exchange_sent made] at replied
      by_cases lost : post.loses answer = true
      · rw [if_pos lost] at replied
        cases replied
      · rw [if_neg lost] at replied
        exact Reply.reply_received replied

/-- An interpretation that is never canceled and that some replies escape settles but for those. -/
theorem interpreted_settles {α : Type} {interpret : Reply -> Outcome α} {escape : Reply -> Prop}
    (escapes : ∀ reply : Reply, reply.IsReceived ->
      (FailsBy Failure.IsFault (interpret reply) ↔ escape reply))
    (uncanceled : ∀ reply, ¬FailsBy Failure.IsCanceled (interpret reply)) :
    Outcome.SettlesBut (command.IsCanceled string batch answer)
      (command.EscapesBy escape string batch answer)
      (command.exchange string batch answer >>= interpret) := by
  apply Outcome.settles_but
  · rw [fails_bind, exchange_fault_iff]
    refine or_congr_right (exists_congr fun reply => and_congr_right fun replied => ?_)
    exact escapes reply (exchange_received replied)
  · rw [fails_bind, exchange_canceled_iff]
    exact or_iff_left fun ⟨reply, _, canceled⟩ => uncanceled reply canceled

/-! All statements in one batch. -/

theorem run_ask {session : Session} (sound : session.connection.IsSound)
    (built : command.batch = .ok batch) :
    runIn command.ask session =
      ((command.exchange session.connection.string batch session.nextAnswer).map fun reply =>
          (batch, reply),
        session.openConnection.posting (command.posts session.connection.string batch)) := by
  rw [ask, Operation.run_lift_ok built, Operation.run_bind_ok (Operation.run_transport sound),
    Operation.run_map, run_post_batch]
  rfl

theorem run_asked {session : Session} {α : Type} (sound : session.connection.IsSound)
    (built : command.batch = .ok batch) (next : Batch × Reply -> Operation α)
    {interpret : Reply -> Outcome α}
    (interprets : ∀ reply between, (runIn (next (batch, reply)) between).1 = interpret reply) :
    (runIn (command.ask >>= next) session).1 =
      (command.exchange session.connection.string batch session.nextAnswer >>= interpret) := by
  rw [Operation.run_bind, run_ask sound built]
  cases command.exchange session.connection.string batch session.nextAnswer with
  | ok reply => exact interprets reply _
  | error failure => rfl

theorem scalar_settles {session : Session} (sound : session.connection.IsSound)
    (built : command.batch = .ok batch) :
    Outcome.SettlesBut (command.IsCanceled session.connection.string batch session.nextAnswer)
      (command.EscapesBy Reply.ScalarEscapes session.connection.string batch session.nextAnswer)
      (runIn command.executeScalar session).1 := by
  have outcome : (runIn command.executeScalar session).1 =
      (command.exchange session.connection.string batch session.nextAnswer >>= Reply.scalar batch) :=
    run_asked sound built _ fun reply between => by rw [Operation.run_lift]
  rw [outcome]
  exact interpreted_settles (fun reply received => Reply.scalar_fault_iff received)
    fun reply => Reply.scalar_not_canceled

theorem reader_settles {session : Session} (sound : session.connection.IsSound)
    (built : command.batch = .ok batch) :
    Outcome.SettlesBut (command.IsCanceled session.connection.string batch session.nextAnswer)
      (command.EscapesBy Reply.TablesEscape session.connection.string batch session.nextAnswer)
      (runIn command.executeReader session).1 := by
  have outcome : (runIn command.executeReader session).1 =
      (command.exchange session.connection.string batch session.nextAnswer >>= fun reply =>
        (Reply.tables batch reply).map fun found => .ofTables found.tables found.affected) :=
    run_asked sound built _ fun reply between => by rw [Operation.run_map, Operation.run_lift]
  rw [outcome]
  exact interpreted_settles
    (fun reply received => fails_map.trans (Reply.tables_fault_iff received))
    fun reply canceled => Reply.tables_not_canceled (fails_map.mp canceled)

end Command

/-! One batch for each statement. -/

namespace Task

variable {string : ConnectionString} {answers : Nat -> Http.Answer} {tasks : List Task}

/-- The statement is a modification whose counts escape. -/
def CountEscapes (task : Task) (batch : Batch) (reply : Reply) : Prop :=
  (Sql.classify .anywhere task.statement).modifies = true ∧ reply.CountEscapes batch

/-- The exchange of a task breaks off, or its counts escape. -/
def Escapes (string : ConnectionString) (task : Task) (answer : Http.Answer) : Prop :=
  ∃ batch, task.batch = .ok batch ∧
    task.command.EscapesBy (task.CountEscapes batch) string batch answer

def IsCanceled (string : ConnectionString) (task : Task) (answer : Http.Answer) : Prop :=
  ∃ batch, task.batch = .ok batch ∧ task.command.IsCanceled string batch answer

/-- The first task that does not come to a count stops in a given way. -/
def FirstStops (string : ConnectionString) (answers : Nat -> Http.Answer) (tasks : List Task)
    (stops : Task -> Http.Answer -> Prop) : Prop :=
  ∃ counts task, Counted string answers tasks counts ∧ tasks[counts.length]? = some task ∧
    stops task (answers counts.length)

theorem first_stops_congr {these those : Task -> Http.Answer -> Prop}
    (same : ∀ task ∈ tasks, ∀ answer, these task answer ↔ those task answer) :
    FirstStops string answers tasks these ↔ FirstStops string answers tasks those :=
  exists_congr fun _ => exists_congr fun task => and_congr_right fun _ => and_congr_right
    fun stands => same task (List.mem_of_getElem? stands) _

theorem exists_batch {task : Task} {batch : Batch} (built : task.batch = .ok batch)
    (P : Batch -> Prop) : (∃ batch, task.batch = .ok batch ∧ P batch) ↔ P batch := by
  constructor
  · rintro ⟨other, same, holds⟩
    rw [built] at same
    cases same
    exact holds
  · exact fun holds => ⟨batch, built, holds⟩

theorem count_settles {task : Task} {batch : Batch} {answer : Http.Answer}
    (built : task.batch = .ok batch) :
    Outcome.SettlesBut (task.IsCanceled string answer) (task.Escapes string answer)
      (task.count string answer) := by
  have settles : Outcome.SettlesBut (task.command.IsCanceled string batch answer)
      (task.command.EscapesBy (task.CountEscapes batch) string batch answer)
      (task.count string answer) := by
    rw [count, built]
    exact Command.interpreted_settles
      (fun reply received => Reply.affected_fault_iff (Batch.of_modification_iff.mp built) received)
      fun reply => Reply.affected_not_canceled
  have escapes : task.Escapes string answer ↔
      task.command.EscapesBy (task.CountEscapes batch) string batch answer :=
    exists_batch built fun batch =>
      task.command.EscapesBy (task.CountEscapes batch) string batch answer
  have canceled : task.IsCanceled string answer ↔ task.command.IsCanceled string batch answer :=
    exists_batch built fun batch => task.command.IsCanceled string batch answer
  rw [escapes, canceled]
  exact settles

/-- A task that fails is not among those that came to a count. -/
theorem Counted.length_le {counts : List Int} (counted : Counted string answers tasks counts)
    {index : Nat} {task : Task} (stands : tasks[index]? = some task) {P : Failure -> Prop}
    (fails : FailsBy P (task.count string (answers index))) : counts.length ≤ index := by
  by_contra within
  have inside : index < counts.length := Nat.lt_of_not_le within
  obtain ⟨own, same, found⟩ := counted index counts[index] (List.getElem?_eq_getElem inside)
  rw [stands] at same
  cases same
  rw [found] at fails
  exact not_fails_ok fails

/-- A run of tasks that have their batches fails as the first task does that comes to no count. -/
theorem Ending.fails_iff {P : Failure -> Prop} {handed : Nat} {outcome : Outcome Int}
    (built : ∀ task ∈ tasks, ∃ batch, task.batch = .ok batch)
    (ending : Ending string answers tasks handed outcome) :
    FailsBy P outcome ↔ FirstStops string answers tasks fun task answer =>
      FailsBy P (task.count string answer) := by
  constructor
  · intro fails
    cases ending with
    | finished counted all => exact absurd fails not_fails_ok
    | unbuilt counted next raised =>
        obtain ⟨batch, made⟩ := built _ (List.mem_of_getElem? next)
        rw [made] at raised
        cases raised
    | @failed counts task batch failure counted next made raised =>
        have stops : FailsBy P (task.count string (answers counts.length)) := by
          rw [raised]
          exact fails
        exact ⟨counts, task, counted, next, stops⟩
  · rintro ⟨counts, task, counted, next, fails⟩
    cases ending with
    | finished all whole =>
        have within : counts.length < tasks.length := (List.getElem?_eq_some_iff.mp next).1
        have beyond := all.length_le next fails
        omega
    | unbuilt _ there raised =>
        obtain ⟨batch, made⟩ := built _ (List.mem_of_getElem? there)
        rw [made] at raised
        cases raised
    | @failed others other batch failure all there made raised =>
        have raises : FailsBy (fun _ => True) (other.count string (answers others.length)) :=
          ⟨failure, raised, trivial⟩
        have same : counts.length = others.length :=
          Nat.le_antisymm (counted.length_le there raises) (all.length_le next fails)
        rw [same] at next fails
        rw [there] at next
        cases next
        rw [← raised]
        exact fails

end Task

theorem effect_settles {session : Session} (sound : session.connection.IsSound) (command : Command)
    (built : ∀ task ∈ Task.ofCommand command, ∃ batch, task.batch = .ok batch) :
    Outcome.SettlesBut
      (Task.FirstStops session.connection.string session.laterAnswers (Task.ofCommand command)
        (Task.IsCanceled session.connection.string))
      (Task.FirstStops session.connection.string session.laterAnswers (Task.ofCommand command)
        (Task.Escapes session.connection.string))
      (runIn command.execute session).1 := by
  obtain ⟨batches, ran⟩ := RunsThrough.of_runs (execute_runs command sound)
  have ending := ran.of_readied.ending
  apply Outcome.settles_but
  · refine (ending.fails_iff built).trans (Task.first_stops_congr fun task member answer => ?_)
    obtain ⟨batch, made⟩ := built task member
    exact (Task.count_settles made).faults
  · refine (ending.fails_iff built).trans (Task.first_stops_congr fun task member answer => ?_)
    obtain ⟨batch, made⟩ := built task member
    exact (Task.count_settles made).cancels

/-- Whatever the server answers, a command whose batches are built gives a result or a library
error, or is canceled exactly when its request is. All else escapes in the ways that are named: the
exchange breaks off, the scalar's cell or the first failing cell of the tables is none that a reader
reports, or a count cannot be read or its violation cannot be written. -/
theorem commands_settle {session : Session} (sound : session.connection.IsSound)
    (command : Command) :
    (∀ batch, command.batch = .ok batch ->
      Outcome.SettlesBut (command.IsCanceled session.connection.string batch session.nextAnswer)
        (command.EscapesBy Reply.ScalarEscapes session.connection.string batch session.nextAnswer)
        (runIn command.executeScalar session).1 ∧
      Outcome.SettlesBut (command.IsCanceled session.connection.string batch session.nextAnswer)
        (command.EscapesBy Reply.TablesEscape session.connection.string batch session.nextAnswer)
        (runIn command.executeReader session).1) ∧
    ((∀ task ∈ Task.ofCommand command, ∃ batch, task.batch = .ok batch) ->
      Outcome.SettlesBut
        (Task.FirstStops session.connection.string session.laterAnswers (Task.ofCommand command)
          (Task.IsCanceled session.connection.string))
        (Task.FirstStops session.connection.string session.laterAnswers (Task.ofCommand command)
          (Task.Escapes session.connection.string))
        (runIn command.execute session).1) :=
  ⟨fun _ built => ⟨Command.scalar_settles sound built, Command.reader_settles sound built⟩,
    effect_settles sound command⟩

/-- A server that answers a request for the changes with a blob that is no Base64. -/
def brokenBlobSession : Session :=
  .start (.make ⟨"http://localhost", "token"⟩ Connection.standardTimeout) fun _ =>
    .response 200 ("\x7b\"results\":[\x7b\"type\":\"ok\",\"response\":\x7b\"type\":\"execute\"\x7d\x7d,"
      ++ "\x7b\"type\":\"ok\",\"response\":\x7b\"type\":\"execute\",\"result\":\x7b\"cols\":[\x7b\x7d],"
      ++ "\"rows\":[[\x7b\"type\":\"blob\",\"value\":\"%\"\x7d]]\x7d\x7d\x7d]\x7d")

def updateEveryRow : Command :=
  ⟨"UPDATE T SET a = 1", none, .int 5, .empty⟩

theorem commands_settle_broken_blob :
    brokenBlobSession.connection.IsSound ∧
      (∃ batch, updateEveryRow.batch = .ok batch ∧
        ¬updateEveryRow.EscapesBy Reply.ScalarEscapes brokenBlobSession.connection.string batch
          brokenBlobSession.nextAnswer ∧
        ¬updateEveryRow.EscapesBy Reply.TablesEscape brokenBlobSession.connection.string batch
          brokenBlobSession.nextAnswer) ∧
      (∀ task ∈ Task.ofCommand updateEveryRow, ∃ batch, task.batch = .ok batch) ∧
      Task.FirstStops brokenBlobSession.connection.string brokenBlobSession.laterAnswers
        (Task.ofCommand updateEveryRow) (Task.Escapes brokenBlobSession.connection.string) := by
  have sound : brokenBlobSession.connection.IsSound := Connection.make_sound _ _
  have whole : ∃ batch, updateEveryRow.batch = .ok batch := by decide +kernel
  have each : ∀ task ∈ Task.ofCommand updateEveryRow, ∃ batch, task.batch = .ok batch := by
    decide +kernel
  obtain ⟨batch, built⟩ := whole
  obtain ⟨atOnce, singly⟩ := commands_settle sound updateEveryRow
  obtain ⟨scalar, reader⟩ := atOnce batch built
  refine ⟨sound, ⟨batch, built, ?_, ?_⟩, each, ?_⟩
  · exact fun escapes => absurd (scalar.faults.mpr escapes) (by decide +kernel)
  · exact fun escapes => absurd (reader.faults.mpr escapes) (by decide +kernel)
  · exact (singly each).faults.mp (by decide +kernel)

end SqlPipeline
