import SqlPipeline.Proofs.Batch.Binding
import SqlPipeline.Proofs.Session.Run
import SqlPipeline.Proofs.Session.Settlement

/-!
Which statements are sent. A run is told by the main statements of the batches that it posts: these
are the first ones of the statements it is about, and all of them when it gives a result. A command
has its statements in one batch together, or in a batch for each.
-/

namespace SqlPipeline

open Operation (runIn)

/-- The main requests of batches, in order. -/
def mainRequests (batches : List Batch) : List Wire.Request :=
  batches.flatMap fun batch => batch.requestsOf .main

theorem main_requests_cons {batch : Batch} {main : Wire.Statement}
    (requests : batch.requestsOf .main = [.execute main]) (batches : List Batch) :
    mainRequests (batch :: batches) = .execute main :: mainRequests batches := by
  rw [mainRequests, List.flatMap_cons, requests]
  rfl

/-- Between two sessions batches were posted whose main statements are the first ones of these, and
all of them if the outcome is a result. -/
structure Delivers {α : Type} (before after : Session) (outcome : Outcome α)
    (mains : List Wire.Statement) (batches : List Batch) : Prop where
  bodies : after.posts.map Http.Post.body = before.posts.map Http.Post.body ++ batches.map Batch.body
  first : mainRequests batches <+: mains.map .execute
  all : ∀ result, outcome = .ok result -> mainRequests batches = mains.map .execute

/-- An operation posts the first ones of these statements, and all of them if it gives a result. -/
def Operation.Sends {α : Type} (operation : Operation α) (session : Session)
    (mains : List Wire.Statement) : Prop :=
  ∃ batches,
    Delivers session (runIn operation session).2 (runIn operation session).1 mains batches

/-- The batch of a task has this one main statement. -/
def Task.SendsMain (task : Task) (main : Wire.Statement) : Prop :=
  ∃ batch, task.batch = .ok batch ∧ batch.requestsOf .main = [.execute main]

/-- A command has these main statements, in the batch of all its statements, unless there are none,
and in the batches of its statements one by one. -/
structure Command.Carries (command : Command) (mains : List Wire.Statement) : Prop where
  together : Sql.split command.text ≠ [] ->
    ∃ batch, command.batch = .ok batch ∧ batch.requestsOf .main = mains.map .execute
  apart : List.Forall₂ Task.SendsMain (Task.ofCommand command) mains

/-- A command is refused after these main statements: its batch of all statements fails, and one by
one the batches before the one that fails have these main statements. -/
structure Command.RefusesAfter (command : Command) (mains : List Wire.Statement)
    (failure : Failure) : Prop where
  together : command.batch = .error failure
  apart : ∃ earlier task later, Task.ofCommand command = earlier ++ task :: later ∧
    List.Forall₂ Task.SendsMain earlier mains ∧ task.batch = .error failure

namespace Delivers

variable {α β : Type} {before after : Session} {outcome : Outcome α} {failure : Failure}
  {mains : List Wire.Statement} {batches : List Batch}

theorem nothing (unchanged : after.posts = before.posts) :
    Delivers before after (.error failure : Outcome α) mains [] := by
  refine ⟨by rw [unchanged, List.map_nil, List.append_nil], List.nil_prefix, ?_⟩
  intro result failed
  cases failed

/-- What comes of an outcome that may fail further is told in the same way. -/
theorem followed (delivers : Delivers before after outcome mains batches)
    (next : α -> Outcome β) : Delivers before after (outcome >>= next) mains batches := by
  refine ⟨delivers.bodies, delivers.first, ?_⟩
  intro result total
  obtain ⟨own, found, -⟩ := Outcome.bind_eq_ok.mp total
  exact delivers.all own found

theorem mapped (delivers : Delivers before after outcome mains batches) (f : α -> β) :
    Delivers before after (outcome.map f) mains batches := by
  have same : outcome.map f = outcome >>= fun own => .ok (f own) := by
    cases outcome with
    | ok own => rfl
    | error failure => rfl
  rw [same]
  exact delivers.followed _

/-- Opening the connection posts nothing. -/
theorem of_readied {text : Text}
    (delivers : Delivers (before.readied text) after outcome mains batches) :
    Delivers before after outcome mains batches :=
  Session.readied_of
    (P := fun session => Delivers session after outcome mains batches ->
      Delivers before after outcome mains batches)
    id (fun opened => ⟨opened.bodies, opened.first, opened.all⟩) text delivers

/-- A batch that is posted first. -/
theorem cons {between : Session} {batch : Batch} {post : Http.Post} {main : Wire.Statement}
    (sent : between.posts = before.posts ++ [post]) (body : post.body = batch.body)
    (requests : batch.requestsOf .main = [.execute main])
    (later : Delivers between after outcome mains batches) :
    Delivers before after outcome (main :: mains) (batch :: batches) := by
  have split := main_requests_cons requests batches
  refine ⟨?_, ?_, ?_⟩
  · rw [later.bodies, sent, List.map_append, List.append_assoc, List.map_singleton, body]
    rfl
  · rw [split, List.map_cons, List.cons_prefix_cons]
    exact ⟨rfl, later.first⟩
  · intro result total
    rw [split, later.all result total, List.map_cons]

end Delivers

namespace Operation

variable {α β : Type} {session : Session} {mains : List Wire.Statement}

/-- What follows an operation and leaves the session alone leaves it as the operation does. -/
theorem run_followed {first : Operation α} {next : α -> Operation β}
    (quiet : ∀ result between, (runIn (next result) between).2 = between) (session : Session) :
    (runIn (first >>= next) session).2 = (runIn first session).2 := by
  rw [run_bind]
  cases runIn first session with
  | mk outcome between =>
      cases outcome with
      | error failure => rfl
      | ok result => exact quiet result between

/-- What follows an operation and leaves the session alone sends nothing more. -/
theorem Sends.followed {first : Operation α} {next : α -> Operation β}
    (sends : first.Sends session mains)
    (quiet : ∀ result between, (runIn (next result) between).2 = between) :
    (first >>= next).Sends session mains := by
  obtain ⟨batches, delivers⟩ := sends
  refine ⟨batches, ?_⟩
  rw [run_bind]
  cases ran : runIn first session with
  | mk outcome between =>
      rw [ran] at delivers
      have later := delivers.followed fun result => (runIn (next result) between).1
      cases outcome with
      | error failure => exact later
      | ok result =>
          dsimp only
          rw [quiet]
          exact later

theorem Sends.of_run {first second : Operation α} (sends : first.Sends session mains)
    (same : runIn second session = runIn first session) : second.Sends session mains := by
  unfold Sends
  rw [same]
  exact sends

theorem sends_of_refusal {operation : Operation α} {failure : Failure}
    (refused : runIn operation session = (.error failure, session)) :
    operation.Sends session mains := by
  unfold Sends
  rw [refused]
  exact ⟨[], .nothing rfl⟩

end Operation

section Runs

variable {string : ConnectionString} {task : Task} {main : Wire.Statement}
  {tasks earlier rest : List Task} {before after : Session} {outcome : Outcome Int}
  {mains : List Wire.Statement} {batches : List Batch}

/-- A task that fails has posted its main statement or nothing. -/
theorem Task.SendsMain.failed (sends : task.SendsMain main) (string : ConnectionString)
    (session : Session) (failure : Failure) (mains : List Wire.Statement) :
    ∃ batches, Delivers session (session.posting (task.posts string))
      (.error failure : Outcome Int) (main :: mains) batches := by
  obtain ⟨batch, built, requests⟩ := sends
  rw [Task.posts_of_batch built, Command.posts]
  cases made : task.command.request string batch with
  | error fault => exact ⟨[], .nothing (List.append_nil _)⟩
  | ok post =>
      have unsent : Delivers (session.posting [post]) (session.posting [post])
          (.error failure : Outcome Int) mains [] := .nothing rfl
      exact ⟨[batch], unsent.cons rfl (Command.request_body made) requests⟩

/-- A task that comes to a count has posted its main statement before what follows it. -/
theorem Task.SendsMain.counted {answer : Http.Answer} {count : Int} (sends : task.SendsMain main)
    (found : task.count string answer = .ok count)
    (delivers : Delivers (before.posting (task.posts string)) after outcome mains batches) :
    ∃ batches, Delivers before after (outcome.map (count + ·)) (main :: mains) batches := by
  obtain ⟨batch, built, requests⟩ := sends
  obtain ⟨same, post, alike, made⟩ := Task.built_of_count found
  cases built.symm.trans alike
  have sent : (before.posting (task.posts string)).posts = before.posts ++ [post] := by
    rw [Task.posts_of_made built made]
    rfl
  exact ⟨batch :: batches, (delivers.mapped _).cons sent (Command.request_body made) requests⟩

/-- A run through tasks posts their main statements one by one, up to a failure and at most up to a
task that has no batch. -/
theorem Runs.delivers (ran : Runs string tasks before outcome after) (cut : tasks = earlier ++ rest)
    (each : List.Forall₂ Task.SendsMain earlier mains)
    (stops : ∀ task ∈ rest.head?, ∃ failure, task.batch = .error failure) :
    ∃ batches, Delivers before after outcome mains batches := by
  induction ran generalizing earlier mains with
  | done session =>
      obtain ⟨rfl, rfl⟩ := List.append_eq_nil_iff.mp cut.symm
      cases each
      exact ⟨[], (List.append_nil _).symm, List.nil_prefix, fun _ _ => rfl⟩
  | @failed task session failure later raised =>
      cases each with
      | nil =>
          obtain ⟨refusal, unbuilt⟩ := stops task (by rw [← List.nil_append rest, ← cut]; rfl)
          rw [Task.posts_of_unbuilt unbuilt]
          exact ⟨[], .nothing (List.append_nil _)⟩
      | cons own others =>
          obtain ⟨rfl, -⟩ := List.cons.inj cut
          exact own.failed string session failure _
  | @counted task session last count later sum found _ ih =>
      cases each with
      | nil =>
          obtain ⟨refusal, unbuilt⟩ := stops task (by rw [← List.nil_append rest, ← cut]; rfl)
          obtain ⟨batch, -, built, -⟩ := Task.built_of_count found
          cases built.symm.trans unbuilt
      | cons own others =>
          obtain ⟨rfl, behind⟩ := List.cons.inj cut
          obtain ⟨batches, delivers⟩ := ih behind others
          exact own.counted found delivers

/-- A run that comes to a count has posted the batches of all its tasks, in their order. -/
theorem Runs.posted (ran : Runs string tasks before outcome after) {count : Int}
    (total : outcome = .ok count) :
    ∃ batches : List Batch, tasks.map Task.batch = batches.map .ok ∧
      after.posts.map Http.Post.body =
        before.posts.map Http.Post.body ++ batches.map Batch.body := by
  induction ran generalizing count with
  | done session => exact ⟨[], rfl, (List.append_nil _).symm⟩
  | failed later raised => cases total
  | @counted task session last own later sum found _ ih =>
      cases sum with
      | error failure => cases total
      | ok n =>
          obtain ⟨batches, built, bodies⟩ := ih rfl
          obtain ⟨batch, post, alike, made⟩ := Task.built_of_count found
          refine ⟨batch :: batches, ?_, ?_⟩
          · rw [List.map_cons, alike, built]
            rfl
          · rw [bodies, Task.posts_of_made alike made, Session.posting, List.map_append,
              List.append_assoc, List.map_singleton, Command.request_body made]
            rfl

end Runs

namespace Command

variable {command : Command} {mains : List Wire.Statement} {session : Session}

theorem batch_eq (some : Sql.split command.text ≠ []) :
    command.batch = Batch.ofStatements (Sql.split command.text)
      ((Sql.split command.text).map (Sql.classify .atStart)) command.parameters
      (.some command.text) true := by
  obtain ⟨statement, later, cut⟩ := List.exists_cons_of_ne_nil some
  rw [batch, cut]

/-- One exchange posts the main statements of its batch, unless no request can be made. -/
theorem exchange_delivers {batch : Batch} (requests : batch.requestsOf .main = mains.map .execute)
    (string : ConnectionString) (session : Session) (answer : Http.Answer) :
    ∃ batches, Delivers session (session.posting (command.posts string batch))
      (command.exchange string batch answer) mains batches := by
  have whole : mainRequests [batch] = mains.map .execute := by
    rw [mainRequests, List.flatMap_singleton, requests]
  rw [posts]
  cases made : command.request string batch with
  | error fault =>
      rw [exchange_unsent made]
      exact ⟨[], .nothing (List.append_nil _)⟩
  | ok post =>
      refine ⟨[batch], ?_, ⟨[], by rw [List.append_nil, whole]⟩, fun _ _ => whole⟩
      rw [List.map_singleton, ← request_body made]
      exact List.map_append

/-- A command whose batch fails is refused before anything is done. -/
theorem ask_refused {failure : Failure} (failed : command.batch = .error failure)
    (session : Session) : runIn command.ask session = (.error failure, session) :=
  Operation.run_lift_error failed _ session

theorem scalar_refused {failure : Failure} (failed : command.batch = .error failure)
    (session : Session) : runIn command.executeScalar session = (.error failure, session) :=
  Operation.run_bind_error (ask_refused failed session) _

theorem reader_refused {failure : Failure} (failed : command.batch = .error failure)
    (session : Session) : runIn command.executeReader session = (.error failure, session) :=
  Operation.run_bind_error (ask_refused failed session) _

/-- All statements are posted in one batch, if there are any. -/
theorem Carries.ask_sends (carries : command.Carries mains) (sound : session.connection.IsSound) :
    command.ask.Sends session mains := by
  cases cut : Sql.split command.text with
  | nil =>
      have unbuilt : command.batch = .error (.library (.ofSql .commandEmpty command.text)) := by
        rw [batch, cut]
      exact Operation.sends_of_refusal (ask_refused unbuilt session)
  | cons statement later =>
      obtain ⟨batch, built, requests⟩ := carries.together (by rw [cut]; exact List.cons_ne_nil _ _)
      obtain ⟨batches, delivers⟩ := command.exchange_delivers requests session.connection.string
        session.openConnection session.nextAnswer
      unfold Operation.Sends
      rw [run_ask sound built]
      exact ⟨batches, delivers.bodies, delivers.first, (delivers.mapped _).all⟩

theorem scalar_quiet (asked : Batch × Reply) (between : Session) :
    (runIn (Operation.lift (Reply.scalar asked.1 asked.2)) between).2 = between := by
  rw [Operation.run_lift]

theorem reader_quiet (asked : Batch × Reply) (between : Session) :
    (runIn (do
      let found ← Operation.lift (Reply.tables asked.1 asked.2)
      return Result.Reader.ofTables found.tables found.affected) between).2 = between := by
  rw [Operation.run_map, Operation.run_lift]

theorem Carries.scalar_sends (carries : command.Carries mains)
    (sound : session.connection.IsSound) : command.executeScalar.Sends session mains :=
  (carries.ask_sends sound).followed scalar_quiet

theorem Carries.reader_sends (carries : command.Carries mains)
    (sound : session.connection.IsSound) : command.executeReader.Sends session mains :=
  (carries.ask_sends sound).followed reader_quiet

theorem Carries.execute_sends (carries : command.Carries mains)
    (sound : session.connection.IsSound) : command.execute.Sends session mains := by
  have all : Task.ofCommand command = Task.ofCommand command ++ [] := (List.append_nil _).symm
  obtain ⟨batches, delivers⟩ := (execute_runs command sound).delivers all carries.apart
    fun task head => nomatch head
  exact ⟨batches, delivers.of_readied⟩

namespace RefusesAfter

variable {failure : Failure}

theorem execute_sends (refuses : command.RefusesAfter mains failure)
    (sound : session.connection.IsSound) : command.execute.Sends session mains := by
  obtain ⟨earlier, task, later, cut, each, unbuilt⟩ := refuses.apart
  have stops : ∀ other ∈ (task :: later).head?, ∃ failure, other.batch = .error failure := by
    rintro other head
    cases head
    exact ⟨failure, unbuilt⟩
  obtain ⟨batches, delivers⟩ := (execute_runs command sound).delivers cut each stops
  exact ⟨batches, delivers.of_readied⟩

theorem execute_fails (refuses : command.RefusesAfter mains failure)
    (sound : session.connection.IsSound) (count : Int) :
    (runIn command.execute session).1 ≠ .ok count := by
  intro total
  obtain ⟨earlier, task, later, cut, -, unbuilt⟩ := refuses.apart
  obtain ⟨batches, built, -⟩ := (execute_runs command sound).posted total
  have member : task.batch ∈ (Task.ofCommand command).map Task.batch :=
    List.mem_map_of_mem (by rw [cut]; simp)
  rw [built] at member
  obtain ⟨batch, -, same⟩ := List.mem_map.mp member
  cases same.trans unbuilt

end RefusesAfter

end Command

end SqlPipeline
