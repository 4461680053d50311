import Mathlib.Algebra.Ring.Int.Defs
import SqlPipeline.Facade.Basic
import SqlPipeline.Proofs.Session.Operation
import SqlPipeline.Proofs.Sql.Splitting

/-!
Runs for effect. The statements of a command are handed over to the transport one by one in their
order, up to the first that fails; a facade goes on in the same way from one list of values to the
next.
-/

namespace SqlPipeline

open Operation (runIn)

/-- One statement of a command that is run for its effect. -/
structure Task where
  command : Command
  statement : Text

namespace Task

def ofCommand (command : Command) : List Task :=
  (Sql.split command.text).map fun statement => ⟨command, statement⟩

def batch (task : Task) : Outcome Batch :=
  Batch.ofModification (Sql.classify .anywhere task.statement) task.statement
    task.command.parameters

/-- What is sent for a task that has a batch. -/
def posts (task : Task) (string : ConnectionString) : List Http.Post :=
  match task.batch with
  | .ok batch => task.command.posts string batch
  | .error _ => []

/-- The rows that a task affects, as the server answers it. -/
def count (task : Task) (string : ConnectionString) (answer : Http.Answer) : Outcome Int := do
  let batch ← task.batch
  let reply ← task.command.exchange string batch answer
  Reply.affected batch reply

/-- The first tasks have come to these counts. -/
def Counted (string : ConnectionString) (answers : Nat -> Http.Answer) (tasks : List Task)
    (counts : List Int) : Prop :=
  ∀ (index : Nat) (count : Int), counts[index]? = some count ->
    ∃ task, tasks[index]? = some task ∧ task.count string (answers index) = .ok count

/-- How a run ends that hands over so many batches: all tasks came to a count, or the next one has
no batch, or its exchange fails. A batch is handed over also when no request can be made of it. -/
inductive Ending (string : ConnectionString) (answers : Nat -> Http.Answer) (tasks : List Task) :
    Nat -> Outcome Int -> Prop where
  | finished {counts : List Int} (counted : Counted string answers tasks counts)
      (all : counts.length = tasks.length) : Ending string answers tasks tasks.length (.ok counts.sum)
  | unbuilt {counts : List Int} {task : Task} {failure : Failure}
      (counted : Counted string answers tasks counts) (next : tasks[counts.length]? = some task)
      (raised : task.batch = .error failure) :
      Ending string answers tasks counts.length (.error failure)
  | failed {counts : List Int} {task : Task} {batch : Batch} {failure : Failure}
      (counted : Counted string answers tasks counts) (next : tasks[counts.length]? = some task)
      (built : task.batch = .ok batch)
      (raised : task.count string (answers counts.length) = .error failure) :
      Ending string answers tasks (counts.length + 1) (.error failure)

end Task

/-- A run hands over the batches of the first tasks, in order and once each. -/
structure RunsThrough (string : ConnectionString) (tasks : List Task) (before : Session)
    (outcome : Outcome Int) (after : Session) (batches : List Batch) : Prop where
  ending : Task.Ending string before.laterAnswers tasks batches.length outcome
  built : (tasks.take batches.length).map Task.batch = batches.map .ok
  sent : after.posts = before.posts ++ (tasks.take batches.length).flatMap fun task =>
    task.posts string
  bodies : (∀ task ∈ tasks, task.command.Sends string) ->
    after.posts.map Http.Post.body = before.posts.map Http.Post.body ++ batches.map Batch.body
  transactions : after.transactions = before.transactions

/-- One task after the other, each in the session that the one before it leaves. -/
inductive Runs (string : ConnectionString) :
    List Task -> Session -> Outcome Int -> Session -> Prop where
  | done (session : Session) : Runs string [] session (.ok 0) session
  | failed {task : Task} {session : Session} {failure : Failure} (later : List Task)
      (raised : task.count string session.nextAnswer = .error failure) :
      Runs string (task :: later) session (.error failure) (session.posting (task.posts string))
  | counted {task : Task} {session after : Session} {count : Int} {later : List Task}
      {outcome : Outcome Int} (found : task.count string session.nextAnswer = .ok count)
      (rest : Runs string later (session.posting (task.posts string)) outcome after) :
      Runs string (task :: later) session (outcome.map (count + ·)) after

/-! Steps. -/

/-- A statement is run by one exchange, or by none when it has no batch. -/
theorem run_statement (task : Task) (transport : Transport) (session : Session) :
    runIn (task.command.runStatement transport task.statement) session =
      (task.count transport.string session.nextAnswer,
        session.posting (task.posts transport.string)) := by
  unfold Command.runStatement Task.count Task.posts
  change runIn (Operation.lift task.batch >>= _) session = _
  cases built : task.batch with
  | error failure =>
      rw [Operation.run_lift_error rfl]
      exact congrArg (Prod.mk _) session.posting_none.symm
  | ok batch =>
      rw [Operation.run_lift_ok rfl, Outcome.ok_bind]
      have posted := task.command.run_post_batch transport batch session
      cases reply : task.command.exchange transport.string batch session.nextAnswer with
      | error failure =>
          rw [reply] at posted
          exact Operation.run_bind_error posted _
      | ok found =>
          rw [reply] at posted
          rw [Operation.run_bind_ok posted, Operation.run_lift]
          rfl

theorem run_statements (command : Command) (transport : Transport) (statements : List Text)
    (session : Session) :
    Runs transport.string (statements.map fun statement => ⟨command, statement⟩) session
      (runIn (command.runStatements transport statements) session).1
      (runIn (command.runStatements transport statements) session).2 := by
  induction statements generalizing session with
  | nil => exact .done session
  | cons statement later ih =>
      have step := run_statement ⟨command, statement⟩ transport session
      rw [Command.runStatements]
      cases counted : Task.count ⟨command, statement⟩ transport.string session.nextAnswer with
      | error failure =>
          rw [counted] at step
          rw [Operation.run_bind_error step]
          exact .failed _ counted
      | ok count =>
          rw [counted] at step
          rw [Operation.run_bind_ok step, Operation.run_map]
          exact .counted counted (ih _)

/-- A session that a text can be run in: a blank text leaves the connection as it is. -/
def Session.readied (session : Session) (text : Text) : Session :=
  if (Text.trim text).isEmpty then session else session.openConnection

theorem Session.readied_of {P : Session -> Prop} {session : Session} (asItIs : P session)
    (opened : P session.openConnection) (text : Text) : P (session.readied text) := by
  by_cases blank : (Text.trim text).isEmpty = true
  · rw [readied, if_pos blank]
    exact asItIs
  · rw [readied, if_neg blank]
    exact opened

theorem Session.readied_posting (session : Session) (text : Text) (posts : List Http.Post) :
    (session.posting posts).readied text = (session.readied text).posting posts := by
  by_cases blank : (Text.trim text).isEmpty = true
  · rw [readied, if_pos blank, readied, if_pos blank]
  · rw [readied, if_neg blank, readied, if_neg blank]
    rfl

theorem Session.openConnection_again (session : Session) :
    session.openConnection.openConnection = session.openConnection := by
  rw [openConnection, openConnection, Connection.opened_opened]

theorem Session.readied_readied (session : Session) (text : Text) :
    (session.readied text).readied text = session.readied text := by
  by_cases blank : (Text.trim text).isEmpty = true
  · rw [readied, if_pos blank]
  · rw [readied, if_neg blank, readied, if_neg blank, openConnection_again]

theorem Session.readied_sound {session : Session} (sound : session.connection.IsSound)
    (text : Text) : (session.readied text).connection.IsSound :=
  readied_of (P := fun session => session.connection.IsSound) sound
    (Connection.opened_sound sound) text

theorem Session.readied_string (session : Session) (text : Text) :
    (session.readied text).connection.string = session.connection.string :=
  readied_of (P := fun later => later.connection.string = session.connection.string) rfl
    session.connection.opened_keeps.1 text

theorem execute_blank {command : Command} (blank : (Text.trim command.text).isEmpty = true)
    (session : Session) : runIn command.execute session = (.ok 0, session) := by
  rw [Command.execute, if_pos blank]
  rfl

theorem Text.blank_of_trim {s : Text} (blank : (Text.trim s).isEmpty = true) :
    ∀ c ∈ s, Text.isBlank c = true := by
  obtain ⟨before, after, blankBefore, blankAfter, cut⟩ := Text.trim_cut s
  rw [List.isEmpty_iff.mp blank, List.nil_append] at cut
  intro c member
  rw [cut] at member
  exact (List.mem_append.mp member).elim (blankBefore c) (blankAfter c)

theorem no_tasks {command : Command} (blank : (Text.trim command.text).isEmpty = true) :
    Task.ofCommand command = [] := by
  have void : Sql.split (command.text ++ []) = [] :=
    Sql.split_of_blanks (Text.blank_of_trim blank) []
  rw [List.append_nil] at void
  rw [Task.ofCommand, void]
  rfl

theorem execute_readied (command : Command) {session : Session}
    (sound : session.connection.IsSound) :
    runIn command.execute (session.readied command.text) = runIn command.execute session := by
  by_cases blank : (Text.trim command.text).isEmpty = true
  · rw [Session.readied, if_pos blank]
  · have same : session.openConnection.connection.string = session.connection.string :=
      session.connection.opened_keeps.1
    have stillSound : session.openConnection.connection.IsSound := Connection.opened_sound sound
    rw [Session.readied, if_neg blank, Command.execute, if_neg blank,
      Operation.run_bind_ok (Operation.run_transport sound),
      Operation.run_bind_ok (Operation.run_transport stillSound),
      session.openConnection_again, same]

theorem execute_runs (command : Command) {session : Session}
    (sound : session.connection.IsSound) :
    Runs session.connection.string (Task.ofCommand command) (session.readied command.text)
      (runIn command.execute session).1 (runIn command.execute session).2 := by
  by_cases blank : (Text.trim command.text).isEmpty = true
  · rw [execute_blank blank, no_tasks blank, Session.readied, if_pos blank]
    exact .done session
  · rw [Command.execute, if_neg blank, Operation.run_bind_ok (Operation.run_transport sound),
      Session.readied, if_neg blank]
    exact run_statements command ⟨session.connection.string⟩ (Sql.split command.text) _

/-! Whole runs. -/

namespace Runs

variable {string : ConnectionString} {first second : List Task} {before between after : Session}
  {outcome : Outcome Int}

theorem append {count : Int} (ran : Runs string first before (.ok count) between)
    (rest : Runs string second between outcome after) :
    Runs string (first ++ second) before (outcome.map (count + ·)) after := by
  generalize total : (.ok count : Outcome Int) = sum at ran
  induction ran generalizing count with
  | done session =>
      cases total
      have same : outcome.map ((0 : Int) + ·) = outcome := by
        cases outcome with
        | ok n => exact congrArg Except.ok (Int.zero_add n)
        | error failure => rfl
      rw [same]
      exact rest
  | failed later raised => cases total
  | @counted task session last own later sum found _ ih =>
      cases sum with
      | error failure => cases total
      | ok others =>
          cases total
          have same : outcome.map ((own + others) + ·) = (outcome.map (others + ·)).map (own + ·) := by
            cases outcome with
            | ok n => exact congrArg Except.ok (Int.add_assoc own others n)
            | error failure => rfl
          rw [same]
          exact .counted found (ih rest rfl)

theorem append_failed {failure : Failure} (ran : Runs string first before (.error failure) after)
    (later : List Task) : Runs string (first ++ later) before (.error failure) after := by
  generalize total : (.error failure : Outcome Int) = sum at ran
  induction ran with
  | done session => cases total
  | failed rest raised =>
      cases total
      exact .failed _ raised
  | @counted task session last own rest sum found _ ih =>
      cases sum with
      | ok others => cases total
      | error raised =>
          cases total
          exact .counted found (ih rfl)

/-- A run does nothing to a session but send POSTs. -/
theorem only_posts (ran : Runs string first before outcome after) :
    ∃ posts, after = before.posting posts := by
  induction ran with
  | done session => exact ⟨[], session.posting_none.symm⟩
  | failed later raised => exact ⟨_, rfl⟩
  | counted found rest ih =>
      obtain ⟨posts, rfl⟩ := ih
      exact ⟨_, Session.posting_posting _ _ _⟩

end Runs

namespace Facade

/-- The tasks of a text that is run for each list of values. -/
def tasks (session : Session) (sql : Text) (sets : List (List Value)) : List Task :=
  sets.flatMap fun values => Task.ofCommand (command session sql values)

theorem execute_many_runs (sql : Text) (sets : List (List Value)) {session : Session}
    (sound : session.connection.IsSound) (ready : session.readied (Sql.nameBare sql) = session) :
    Runs session.connection.string (tasks session sql sets) session
      (runIn (executeMany sql sets) session).1 (runIn (executeMany sql sets) session).2 := by
  induction sets generalizing session with
  | nil => exact .done session
  | cons values later ih =>
      have first := execute_runs (command session sql values) sound
      have text : (command session sql values).text = Sql.nameBare sql := rfl
      rw [text, ready] at first
      rw [executeMany, Operation.run_bind_ok (Operation.run_get session)]
      cases ran : runIn (command session sql values).execute session with
      | mk outcome between =>
          rw [ran] at first
          cases outcome with
          | error failure =>
              rw [Operation.run_bind_error ran]
              exact first.append_failed _
          | ok count =>
              obtain ⟨posts, rfl⟩ := first.only_posts
              rw [Operation.run_bind_ok ran, Operation.run_map]
              have stillReady : (session.posting posts).readied (Sql.nameBare sql) =
                  session.posting posts := by
                rw [Session.readied_posting, ready]
              exact first.append (@ih (session.posting posts) sound stillReady)

theorem command_readied (session : Session) (text sql : Text) (values : List Value) :
    command (session.readied text) sql values = command session sql values := by
  refine Session.readied_of (P := fun later => command later sql values = command session sql values)
    rfl ?_ text
  obtain ⟨-, timeout, transaction⟩ := session.connection.opened_keeps
  have active : session.openConnection.activeTransaction? = session.activeTransaction? := by
    unfold Session.activeTransaction? Session.openConnection
    rw [transaction]
    rfl
  have limit : session.openConnection.connection.timeout = session.connection.timeout := timeout
  rw [command, Command.create, active, limit]
  rfl

theorem tasks_readied (session : Session) (text sql : Text) (sets : List (List Value)) :
    tasks (session.readied text) sql sets = tasks session sql sets := by
  unfold tasks
  congr 1
  funext values
  rw [command_readied]

/-- With the first list of values a session is readied, so that it may be readied before. -/
theorem execute_many_readied (sql : Text) (values : List Value) (later : List (List Value))
    {session : Session} (sound : session.connection.IsSound) :
    runIn (executeMany sql (values :: later)) (session.readied (Sql.nameBare sql)) =
      runIn (executeMany sql (values :: later)) session := by
  have first := execute_readied (command session sql values) sound
  have text : (command session sql values).text = Sql.nameBare sql := rfl
  rw [text] at first
  rw [executeMany, Operation.run_bind_ok (Operation.run_get _),
    Operation.run_bind_ok (Operation.run_get _), command_readied, Operation.run_bind,
    Operation.run_bind, first]

/-- A blank text has no placeholders to be named. -/
theorem name_blank {sql : Text} (blank : ∀ c ∈ sql, Text.isBlank c = true) (index : Nat) :
    Sql.nameFrom index sql = sql := by
  induction sql with
  | nil => rfl
  | cons c rest ih =>
      have plain : (c = '?' && !Text.startsWithDigit rest) = false := by
        have other : c ≠ '?' := by
          rintro rfl
          exact absurd (blank _ List.mem_cons_self) (by decide)
        simp [other]
      rw [Sql.nameFrom, plain, ih fun next member => blank next (List.mem_cons_of_mem c member)]
      rfl

theorem execute_many_blank {sql : Text} (blank : (Text.trim sql).isEmpty = true)
    (sets : List (List Value)) (session : Session) :
    runIn (executeMany sql sets) session = (.ok 0, session) := by
  induction sets with
  | nil => rfl
  | cons values later ih =>
      have void : (Text.trim (command session sql values).text).isEmpty = true := by
        change (Text.trim (Sql.nameFrom 0 sql)).isEmpty = true
        rw [name_blank (Text.blank_of_trim blank), blank]
      rw [executeMany, Operation.run_bind_ok (Operation.run_get session),
        Operation.run_bind_ok (execute_blank void session), Operation.run_map, ih]
      rfl

end Facade

namespace Task

variable {string : ConnectionString} {task : Task}

theorem built_of_count {answer : Http.Answer} {count : Int}
    (found : task.count string answer = .ok count) :
    ∃ batch post, task.batch = .ok batch ∧ task.command.request string batch = .ok post := by
  obtain ⟨batch, built, rest⟩ := Outcome.bind_eq_ok.mp found
  obtain ⟨reply, replied, -⟩ := Outcome.bind_eq_ok.mp rest
  obtain ⟨post, made, -⟩ := Outcome.bind_eq_ok.mp replied
  exact ⟨batch, post, built, Outcome.lift_eq_ok.mp made⟩

theorem posts_of_batch {batch : Batch} (built : task.batch = .ok batch) :
    task.posts string = task.command.posts string batch := by
  rw [posts, built]

theorem posts_of_made {batch : Batch} {post : Http.Post} (built : task.batch = .ok batch)
    (made : task.command.request string batch = .ok post) : task.posts string = [post] := by
  rw [posts_of_batch built, Command.posts, made]
  rfl

theorem posts_of_unbuilt {failure : Failure} (unbuilt : task.batch = .error failure) :
    task.posts string = [] := by
  rw [posts, unbuilt]

theorem Counted.cons {answers : Nat -> Http.Answer} {later : List Task} {count : Int}
    {counts : List Int} (found : task.count string (answers 0) = .ok count)
    (rest : Counted string (fun index => answers (index + 1)) later counts) :
    Counted string answers (task :: later) (count :: counts) := by
  intro index own stands
  cases index with
  | zero =>
      cases stands
      exact ⟨task, rfl, found⟩
  | succ index => exact rest index own stands

theorem Counted.none {answers : Nat -> Http.Answer} {tasks : List Task} :
    Counted string answers tasks [] := by
  intro index count stands
  cases stands

/-- A task that comes to a count moves the end of the run that follows it by one. -/
theorem Ending.cons {answers : Nat -> Http.Answer} {later : List Task} {count : Int}
    {handed : Nat} {outcome : Outcome Int} (found : task.count string (answers 0) = .ok count)
    (rest : Ending string (fun index => answers (index + 1)) later handed outcome) :
    Ending string answers (task :: later) (handed + 1) (outcome.map (count + ·)) := by
  cases rest with
  | @finished counts counted all =>
      change Ending string answers (task :: later) (later.length + 1) (.ok (count + counts.sum))
      rw [← List.sum_cons]
      exact .finished (counted.cons found) (congrArg Nat.succ all)
  | unbuilt counted next raised => exact .unbuilt (counted.cons found) next raised
  | failed counted next built raised => exact .failed (counted.cons found) next built raised

end Task

namespace RunsThrough

variable {string : ConnectionString} {tasks : List Task} {before after : Session}
  {outcome : Outcome Int} {batches : List Batch}

theorem cons {task : Task} {batch : Batch} {post : Http.Post} {count : Int}
    (built : task.batch = .ok batch) (made : task.command.request string batch = .ok post)
    (found : task.count string before.nextAnswer = .ok count)
    (rest : RunsThrough string tasks (before.posting (task.posts string)) outcome after batches) :
    RunsThrough string (task :: tasks) before (outcome.map (count + ·)) after (batch :: batches) := by
  have one := Task.posts_of_made built made
  have later : (before.posting (task.posts string)).laterAnswers =
      fun index => before.laterAnswers (index + 1) := by
    funext index
    rw [one, Session.posting, Session.laterAnswers, Session.laterAnswers, List.length_append,
      List.length_singleton, Nat.add_assoc, Nat.add_comm 1 index]
  refine ⟨?_, ?_, ?_, ?_, rest.transactions⟩
  · exact .cons found (later ▸ rest.ending)
  · rw [List.length_cons, List.take_succ_cons, List.map_cons, List.map_cons, built, rest.built]
  · rw [rest.sent, List.length_cons, List.take_succ_cons, List.flatMap_cons, ← List.append_assoc]
    rfl
  · intro sends
    have own := (sends task List.mem_cons_self)
    rw [rest.bodies fun next member => sends next (List.mem_cons_of_mem task member),
      Session.posting, List.map_append, Task.posts_of_batch built, Command.posts_of_sends own batch,
      List.append_assoc]
    rfl

theorem of_runs (ran : Runs string tasks before outcome after) :
    ∃ batches, RunsThrough string tasks before outcome after batches := by
  induction ran with
  | done session =>
      exact ⟨[], .finished .none rfl, rfl, (List.append_nil _).symm, fun _ =>
        (List.append_nil _).symm, rfl⟩
  | @failed task session failure later raised =>
      cases built : task.batch with
      | error unbuilt =>
          have same : unbuilt = failure := by
            rw [Task.count, built] at raised
            cases raised
            rfl
          rw [Task.posts_of_unbuilt built, Session.posting_none]
          exact ⟨[], .unbuilt .none rfl (same ▸ built), rfl, (List.append_nil _).symm, fun _ =>
            (List.append_nil _).symm, rfl⟩
      | ok batch =>
          refine ⟨[batch], .failed .none rfl built raised, ?_, ?_, ?_, rfl⟩
          · exact congrArg (fun first => [first]) built
          · exact congrArg (session.posts ++ ·) (List.append_nil _).symm
          · intro sends
            rw [Session.posting, List.map_append, Task.posts_of_batch built,
              Command.posts_of_sends (sends task List.mem_cons_self) batch]
            rfl
  | counted found _ ih =>
      obtain ⟨batches, rest⟩ := ih
      obtain ⟨batch, post, built, made⟩ := Task.built_of_count found
      exact ⟨batch :: batches, rest.cons built made found⟩

/-- Opening the connection first changes nothing that a run is told by. -/
theorem of_readied {text : Text} (ran : RunsThrough string tasks (before.readied text) outcome after batches) :
    RunsThrough string tasks before outcome after batches :=
  Session.readied_of
    (P := fun session => RunsThrough string tasks session outcome after batches ->
      RunsThrough string tasks before outcome after batches)
    id (fun opened => ⟨opened.ending, opened.built, opened.sent, opened.bodies, opened.transactions⟩)
    text ran

end RunsThrough

/-- A command run for its effect hands over the batches of its statements, in their order and once
each, up to the first statement that fails, whose failure is raised; when none does, the counts add
up. Blank text does nothing at all. Lists of values are run through in the same way. -/
theorem effect_runs_in_order {session : Session} (sound : session.connection.IsSound) :
    (∀ command : Command,
      (∃ batches, RunsThrough session.connection.string (Task.ofCommand command) session
        (runIn command.execute session).1 (runIn command.execute session).2 batches) ∧
      ((Text.trim command.text).isEmpty = true -> runIn command.execute session = (.ok 0, session))) ∧
    ∀ (sql : Text) (sets : List (List Value)),
      (∃ batches, RunsThrough session.connection.string (Facade.tasks session sql sets) session
        (runIn (Facade.executeMany sql sets) session).1
        (runIn (Facade.executeMany sql sets) session).2 batches) ∧
      ((Text.trim sql).isEmpty = true ->
        runIn (Facade.executeMany sql sets) session = (.ok 0, session)) := by
  refine ⟨fun command => ⟨?_, fun blank => execute_blank blank session⟩, fun sql sets => ⟨?_, ?_⟩⟩
  · obtain ⟨batches, through⟩ := RunsThrough.of_runs (execute_runs command sound)
    exact ⟨batches, through.of_readied⟩
  · cases sets with
    | nil => exact RunsThrough.of_runs (.done session)
    | cons values later =>
        have ran := Facade.execute_many_runs sql (values :: later)
          (session.readied_sound sound (Sql.nameBare sql)) (session.readied_readied _)
        rw [session.readied_string, Facade.tasks_readied,
          Facade.execute_many_readied sql values later sound] at ran
        obtain ⟨batches, through⟩ := RunsThrough.of_runs ran
        exact ⟨batches, through.of_readied⟩
  · exact fun blank => Facade.execute_many_blank blank sets session

/-- A server that answers the first POST and is gone at the second. -/
def goneSession : Session :=
  .start (.make ⟨"http://localhost", "token"⟩ Connection.standardTimeout) fun index =>
    if index = 0 then .response 200 "\x7b\"results\":[]\x7d" else .failed "gone"

def threeStatements : Command :=
  ⟨"PRAGMA a; PRAGMA b; PRAGMA c", none, .int 5, .empty⟩

theorem effect_runs_in_order_gone :
    goneSession.connection.IsSound ∧
      (∃ batches, RunsThrough goneSession.connection.string (Task.ofCommand threeStatements)
        goneSession (runIn threeStatements.execute goneSession).1
        (runIn threeStatements.execute goneSession).2 batches) ∧
      (Task.ofCommand threeStatements).length = 3 ∧
      (runIn threeStatements.execute goneSession).2.posts.length = 2 := by
  have sound : goneSession.connection.IsSound := Connection.make_sound _ _
  refine ⟨sound, ((effect_runs_in_order sound).1 threeStatements).1, ?_, ?_⟩
  · decide +kernel
  · decide +kernel

end SqlPipeline
