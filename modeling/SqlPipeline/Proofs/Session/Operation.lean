import SqlPipeline.Proofs.Outcome
import SqlPipeline.Session.Command

/-!
Runs of operations in a session: the outcome, and the session after it. A POST is an exchange with
the server; all that it changes of the session is the list of the POSTs that were sent.
-/

namespace SqlPipeline

/-- A connection that is open has the transport to its own address. -/
def Connection.IsSound (connection : Connection) : Prop :=
  connection.state = .opened -> connection.transport? = some ⟨connection.string⟩

namespace Connection

theorem make_sound (string : ConnectionString) (timeout : Value) : (make string timeout).IsSound := by
  intro opened
  cases opened

theorem opened_sound {connection : Connection} (sound : connection.IsSound) :
    connection.opened.IsSound := by
  intro isOpen
  unfold opened at isOpen ⊢
  by_cases already : connection.state = .opened
  · rw [if_pos already]
    exact sound already
  · rw [if_neg already]

/-- Opening leaves all of a connection that is not about being open. -/
theorem opened_keeps (connection : Connection) :
    connection.opened.string = connection.string ∧ connection.opened.timeout = connection.timeout ∧
      connection.opened.transaction? = connection.transaction? := by
  unfold opened
  by_cases already : connection.state = .opened
  · rw [if_pos already]
    exact ⟨rfl, rfl, rfl⟩
  · rw [if_neg already]
    exact ⟨rfl, rfl, rfl⟩

theorem opened_transport {connection : Connection} (sound : connection.IsSound) :
    connection.opened.transport? = some ⟨connection.string⟩ := by
  unfold opened
  by_cases already : connection.state = .opened
  · rw [if_pos already]
    exact sound already
  · rw [if_neg already]

theorem opened_opened (connection : Connection) : connection.opened.opened = connection.opened := by
  have isOpen : connection.opened.state = .opened := by
    unfold opened
    by_cases already : connection.state = .opened
    · rw [if_pos already, already]
    · rw [if_neg already]
  rw [opened, if_pos isOpen]

end Connection

namespace Session

/-- A session in which further POSTs were sent. -/
def posting (session : Session) (posts : List Http.Post) : Session :=
  { session with posts := session.posts ++ posts }

/-- The answer that the server gives to the next POST. -/
def nextAnswer (session : Session) : Http.Answer :=
  session.answers session.posts.length

/-- The answers to the POSTs from the next one on. -/
def laterAnswers (session : Session) (index : Nat) : Http.Answer :=
  session.answers (session.posts.length + index)

theorem posting_posting (session : Session) (posts later : List Http.Post) :
    (session.posting posts).posting later = session.posting (posts ++ later) := by
  simp only [posting, List.append_assoc]

theorem posting_none (session : Session) : session.posting [] = session := by
  rw [posting, List.append_nil]

end Session

namespace Operation

variable {α β : Type}

/-- The outcome of an operation in a session, and the session after it. -/
def runIn (operation : Operation α) (session : Session) : Outcome α × Session :=
  operation.run.run session

theorem run_get (session : Session) : runIn (get : Operation Session) session = (.ok session, session) :=
  rfl

theorem run_lift (outcome : Outcome α) (session : Session) :
    runIn (lift outcome) session = (outcome, session) := by
  cases outcome with
  | ok x => rfl
  | error failure => rfl

theorem run_bind (first : Operation α) (next : α -> Operation β) (session : Session) :
    runIn (first >>= next) session =
      match runIn first session with
      | (.ok x, between) => runIn (next x) between
      | (.error failure, between) => (.error failure, between) := by
  simp only [runIn, ExceptT.run_bind, StateT.run_bind]
  cases ran : first.run.run session with
  | mk outcome between =>
      cases outcome with
      | ok x => rfl
      | error failure => rfl

theorem run_bind_ok {first : Operation α} {session between : Session} {x : α}
    (ran : runIn first session = (.ok x, between)) (next : α -> Operation β) :
    runIn (first >>= next) session = runIn (next x) between := by
  rw [run_bind, ran]

theorem run_bind_error {first : Operation α} {session between : Session} {failure : Failure}
    (ran : runIn first session = (.error failure, between)) (next : α -> Operation β) :
    runIn (first >>= next) session = (.error failure, between) := by
  rw [run_bind, ran]

theorem run_lift_ok {outcome : Outcome α} {x : α} (found : outcome = .ok x)
    (next : α -> Operation β) (session : Session) :
    runIn (lift outcome >>= next) session = runIn (next x) session := by
  rw [run_bind, run_lift, found]

theorem run_lift_error {outcome : Outcome α} {failure : Failure} (failed : outcome = .error failure)
    (next : α -> Operation β) (session : Session) :
    runIn (lift outcome >>= next) session = (.error failure, session) := by
  rw [run_bind, run_lift, failed]

theorem run_map (operation : Operation α) (f : α -> β) (session : Session) :
    runIn (do return f (← operation)) session =
      ((runIn operation session).1.map f, (runIn operation session).2) := by
  rw [run_bind]
  cases ran : runIn operation session with
  | mk outcome after =>
      cases outcome with
      | ok x => rfl
      | error failure => rfl

theorem run_transport {session : Session} (sound : session.connection.IsSound) :
    runIn transport session =
      (.ok ⟨session.connection.string⟩, session.openConnection) := by
  have found : session.openConnection.connection.transport? = some ⟨session.connection.string⟩ :=
    Connection.opened_transport sound
  have opened : runIn (modify Session.openConnection : Operation PUnit) session =
      (.ok ⟨⟩, session.openConnection) := rfl
  unfold transport
  rw [run_bind_ok opened, run_bind_ok (run_get session.openConnection), found]
  rfl

end Operation

theorem Http.Post.make_body {string : ConnectionString} {timeout : Value} {body : Text} {post : Http.Post}
    (made : Http.Post.make string timeout body = .ok post) : post.body = body := by
  unfold Http.Post.make at made
  cases address : Url.ofText? string.url with
  | none =>
      rw [address] at made
      cases made
  | some url =>
      rw [address] at made
      dsimp only at made
      split at made
      · cases made
      · split at made
        · cases made
          rfl
        · cases made

/-- What comes of a batch and the POST that was made of it, if one was made. -/
def Batch.exchange (batch : Batch) (made : Except Fault Http.Post) (answer : Http.Answer) :
    Outcome Reply := do
  let post ← Fault.lift made
  if post.loses answer then .error (.fault .badContent)
  else Reply.ofAnswer batch batch.body answer

theorem Operation.run_post (transport : Transport) (timeout : Value) (batch : Batch)
    (session : Session) :
    runIn (post transport timeout batch) session =
      (batch.exchange (Http.Post.make transport.string timeout batch.body) session.nextAnswer,
        session.posting (Http.Post.make transport.string timeout batch.body).toOption.toList) := by
  unfold post Batch.exchange
  dsimp only
  cases made : Http.Post.make transport.string timeout batch.body with
  | error fault =>
      have failed : Fault.lift (.error fault : Except Fault Http.Post) = .error (.fault fault) := rfl
      rw [run_lift_error failed]
      exact congrArg (Prod.mk _) session.posting_none.symm
  | ok post =>
      have found : Fault.lift (.ok post : Except Fault Http.Post) = .ok post := rfl
      have sent : runIn (send post) session = (.ok session.nextAnswer, session.posting [post]) := rfl
      rw [run_lift_ok found, run_bind_ok sent, found, Outcome.ok_bind]
      by_cases lost : post.loses session.nextAnswer = true
      · rw [if_pos lost, if_pos lost]
        rfl
      · rw [if_neg lost, if_neg lost]
        exact run_lift _ _

namespace Command

/-- The POST of a batch under the limit of a command. -/
def request (command : Command) (string : ConnectionString) (batch : Batch) :
    Except Fault Http.Post := do
  Http.Post.make string (← command.requestTimeout) batch.body

/-- What is sent of a batch: its POST, unless none can be made. -/
def posts (command : Command) (string : ConnectionString) (batch : Batch) : List Http.Post :=
  (command.request string batch).toOption.toList

/-- The reply to a batch, as the server answers it. -/
def exchange (command : Command) (string : ConnectionString) (batch : Batch)
    (answer : Http.Answer) : Outcome Reply := do
  let post ← Fault.lift (command.request string batch)
  if post.loses answer then .error (.fault .badContent)
  else Reply.ofAnswer batch batch.body answer

/-- A command whose batches can be sent to an address. -/
def Sends (command : Command) (string : ConnectionString) : Prop :=
  ∀ batch, ∃ post, command.request string batch = .ok post

theorem request_body {command : Command} {string : ConnectionString} {batch : Batch}
    {post : Http.Post} (made : command.request string batch = .ok post) :
    post.body = batch.body := by
  unfold request at made
  cases limit : command.requestTimeout with
  | error fault =>
      rw [limit] at made
      cases made
  | ok timeout =>
      rw [limit, Outcome.ok_bind] at made
      exact Http.Post.make_body made

theorem posts_of_sends {command : Command} {string : ConnectionString}
    (sends : command.Sends string) (batch : Batch) :
    (command.posts string batch).map Http.Post.body = [batch.body] := by
  obtain ⟨post, made⟩ := sends batch
  rw [posts, made, ← request_body made]
  rfl

open Operation in
theorem run_post_batch (command : Command) (transport : Transport) (batch : Batch)
    (session : Session) :
    runIn (command.postBatch transport batch) session =
      (command.exchange transport.string batch session.nextAnswer,
        session.posting (command.posts transport.string batch)) := by
  unfold postBatch exchange posts request
  cases limit : command.requestTimeout with
  | error fault =>
      have failed : Fault.lift (.error fault : Except Fault Value) = .error (.fault fault) := rfl
      rw [run_lift_error failed]
      exact congrArg (Prod.mk _) session.posting_none.symm
  | ok timeout =>
      have limited : Fault.lift (.ok timeout : Except Fault Value) = .ok timeout := rfl
      rw [run_lift_ok limited, run_post, Outcome.ok_bind]
      rfl

end Command
end SqlPipeline
