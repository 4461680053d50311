import SqlPipeline.Proofs.ConnectionString
import SqlPipeline.Proofs.Session.Alike

/-!
The token of a session is a secret of its POSTs. A caller that works with a session sees what its
calls return, the texts that may be shown, the connection, the transactions and what was posted but
for its authorization; from all of that it cannot tell one token from another.
-/

namespace SqlPipeline

open Operation (runIn IsBlind blind_pure blind_lift blind_modify agree_get)

/-- What a call gives back. -/
inductive Returned where
  | nothing
  | transaction (number : Nat)
  | command (command : Command)
  | count (rows : Int)
  | value (value : Value)
  | reader (reader : Result.Reader)
  | cursor (cursor : Facade.Cursor)

/-- What a caller can ask of a session. A command is one that was created before, edited or not. -/
inductive Call where
  | openConnection (isLooping : Bool)
  | closeConnection
  | begin (level : Text)
  | commit (number : Nat)
  | rollback (number : Nat)
  | dispose (number : Nat)
  | create (text : Text) (transaction? : Option Nat)
  | execute (command : Command)
  | executeScalar (command : Command)
  | executeReader (command : Command)
  | cancel (command : Command)
  | facadeExecute (sql : Text) (values : List Value)
  | facadeScalar (sql : Text) (values : List Value)
  | facadeMany (sql : Text) (sets : List (List Value))
  | facadeScript (sql : Text)
  /-- Goes on with the connection for reading only. -/
  | readOnly
  | changeDatabase (name : Text)

namespace Call

def operation : Call -> Operation Returned
  | openConnection isLooping => do
      Operation.openWaiting isLooping
      return .nothing
  | closeConnection => do
      modify Session.closeConnection
      return .nothing
  | begin level => return .transaction (← Operation.begin level)
  | commit number => do
      Operation.commit number
      return .nothing
  | rollback number => do
      Operation.rollback number
      return .nothing
  | dispose number => do
      modify fun session => session.disposeTransaction number
      return .nothing
  | create text transaction? => return .command (Command.create (← get) text transaction?)
  | execute command => return .count (← command.execute)
  | executeScalar command => return .value (← command.executeScalar)
  | executeReader command => return .reader (← command.executeReader)
  | cancel command => do
      Operation.lift command.cancel
      return .nothing
  | facadeExecute sql values => return .cursor (← Facade.execute sql values)
  | facadeScalar sql values => return .value (← Facade.scalar sql values)
  | facadeMany sql sets => return .count (← Facade.executeMany sql sets)
  | facadeScript sql => do
      Facade.executeScript sql
      return .nothing
  | readOnly => do
      modify fun session => { session with connection := session.connection.readOnly }
      return .nothing
  | changeDatabase name => do
      Operation.lift ((← get).connection.changeDatabase name)
      return .nothing

theorem operation_blind (call : Call) : IsBlind call.operation := by
  cases call with
  | openConnection isLooping =>
      exact (Operation.open_waiting_blind isLooping).follow fun _ => blind_pure _
  | closeConnection =>
      refine (blind_modify fun _ _ alike => ?_).follow fun _ => blind_pure _
      exact alike.closeConnection
  | begin level => exact (Operation.begin_blind level).follow fun _ => blind_pure _
  | commit number => exact (Operation.finish_blind _ number).follow fun _ => blind_pure _
  | rollback number => exact (Operation.finish_blind _ number).follow fun _ => blind_pure _
  | dispose number =>
      refine (blind_modify fun _ _ alike => ?_).follow fun _ => blind_pure _
      exact alike.disposeTransaction number
  | create text transaction? =>
      refine agree_get.bind fun one other alike => ?_
      rw [alike.command text transaction?]
      exact blind_pure _
  | execute command => exact command.execute_blind.follow fun _ => blind_pure _
  | executeScalar command => exact command.scalar_blind.follow fun _ => blind_pure _
  | executeReader command => exact command.reader_blind.follow fun _ => blind_pure _
  | cancel command => exact (blind_lift _).follow fun _ => blind_pure _
  | facadeExecute sql values => exact (Facade.execute_blind sql values).follow fun _ => blind_pure _
  | facadeScalar sql values => exact (Facade.scalar_blind sql values).follow fun _ => blind_pure _
  | facadeMany sql sets => exact (Facade.execute_many_blind sql sets).follow fun _ => blind_pure _
  | facadeScript sql => exact (Facade.execute_script_blind sql).follow fun _ => blind_pure _
  | readOnly =>
      refine (blind_modify fun _ _ alike => ?_).follow fun _ => blind_pure _
      exact alike.readOnly
  | changeDatabase name =>
      refine agree_get.bind fun one other alike => ?_
      exact (blind_lift _).follow fun _ => blind_pure _

end Call

/-- What is seen after a call: its outcome and the session, but for the token, the full connection
string and the authorization of the POSTs. -/
structure Observation where
  returned : Outcome Returned
  url : Text
  display : Text
  /-- The connection string as it shows itself. -/
  string : Text
  /-- The connection as it shows itself. -/
  connection : Text
  timeout : Value
  state : ConnectionState
  current? : Option Nat
  transactions : List Transaction
  /-- The target, the time limit and the body of each POST. -/
  posts : List (Url × Value × Text)

namespace Http.Post

def shown (post : Http.Post) : Url × Value × Text :=
  (post.target, post.timeout, post.body)

theorem Alike.shown {posts others : List Http.Post} (alike : List.Forall₂ Alike posts others) :
    posts.map Http.Post.shown = others.map Http.Post.shown := by
  induction alike with
  | nil => rfl
  | cons same _ ih =>
      rw [List.map_cons, List.map_cons, ih, Http.Post.shown, Http.Post.shown, same.target,
        same.timeout, same.body]

end Http.Post

namespace Session

def observe (session : Session) (returned : Outcome Returned) : Observation where
  returned := returned
  url := session.connection.url
  display := session.connection.string.display
  string := session.connection.string.inspect
  connection := session.connection.inspect
  timeout := session.connection.timeout
  state := session.connection.state
  current? := session.connection.transaction?
  transactions := session.transactions
  posts := session.posts.map Http.Post.shown

theorem Alike.observe {one other : Session} (alike : one.Alike other)
    (returned : Outcome Returned) : one.observe returned = other.observe returned := by
  have url := alike.connection.string.url
  have display : one.connection.string.display = other.connection.string.display := by
    unfold ConnectionString.display
    rw [url]
  have shown : one.connection.inspect = other.connection.inspect := by
    unfold Connection.inspect
    rw [display, alike.connection.state]
  have string : one.connection.string.inspect = other.connection.string.inspect := by
    unfold ConnectionString.inspect
    rw [url]
  simp only [Session.observe, Connection.url, url, display, shown, string,
    alike.connection.timeout, alike.connection.state, alike.connection.current,
    alike.transactions, Http.Post.Alike.shown alike.posts]

end Session

/-- Picks each call by what was seen of the calls before it. A fixed sequence of calls is one that
only counts them. -/
abbrev Caller := List Observation -> Call

/-- What a caller has seen after a number of calls, and the session then. -/
def Session.driven (session : Session) (caller : Caller) : Nat -> List Observation × Session
  | 0 => ([], session)
  | count + 1 =>
      let before := session.driven caller count
      let after := runIn (caller before.1).operation before.2
      (before.1 ++ [after.2.observe after.1], after.2)

/-- A call on sessions that are alike is seen in the same way, and they stay alike. -/
theorem Session.Alike.called {one other : Session} (alike : one.Alike other) (call : Call) :
    (runIn call.operation one).2.observe (runIn call.operation one).1 =
        (runIn call.operation other).2.observe (runIn call.operation other).1 ∧
      (runIn call.operation one).2.Alike (runIn call.operation other).2 := by
  obtain ⟨ended, left⟩ := call.operation_blind one other alike
  exact ⟨ended.eq ▸ left.observe _, left⟩

theorem Session.Alike.driven {one other : Session} (alike : one.Alike other) (caller : Caller)
    (count : Nat) :
    (one.driven caller count).1 = (other.driven caller count).1 ∧
      (one.driven caller count).2.Alike (other.driven caller count).2 := by
  induction count with
  | zero => exact ⟨rfl, alike⟩
  | succ count ih =>
      obtain ⟨same, between⟩ := ih
      obtain ⟨seen, after⟩ := between.called (caller (one.driven caller count).1)
      rw [Session.driven, Session.driven, ← same]
      exact ⟨congrArg ((one.driven caller count).1 ++ [·]) seen, after⟩

/-- What a caller sees of a session that is started with a connection string. -/
def observations (string : Text) (timeout : Value) (answers : Nat -> Http.Answer) (caller : Caller)
    (count : Nat) : Outcome (List Observation) :=
  (Connection.ofText string timeout).map fun connection =>
    ((Session.start connection answers).driven caller count).1

/-- Whether there is a connection is up to the address, and so is all but its token. -/
theorem Connection.of_bearer {one other : Text} (first : IsBearer one) (second : IsBearer other)
    (address : Text) (timeout : Value) :
    Outcome.Alike Connection.Alike (ofText (address ++ ';' :: one) timeout)
      (ofText (address ++ ';' :: other) timeout) := by
  rw [ofText, ofText, ConnectionString.parse_bearer first, ConnectionString.parse_bearer second]
  cases ConnectionString.urlOf address with
  | error cause => exact .error (Failure.cause cause)
  | ok url =>
      have strings : ConnectionString.Alike ⟨url, one⟩ ⟨url, other⟩ :=
        ⟨rfl, first.ascii, second.ascii⟩
      exact .ok (Connection.Alike.made strings timeout)

/-- No caller can tell two tokens apart. -/
theorem token_stays_hidden {one other : Text} (first : IsBearer one) (second : IsBearer other)
    (address : Text) (timeout : Value) (answers : Nat -> Http.Answer) (caller : Caller)
    (count : Nat) :
    observations (address ++ ';' :: one) timeout answers caller count =
      observations (address ++ ';' :: other) timeout answers caller count := by
  have alike := Connection.of_bearer first second address timeout
  unfold observations
  generalize Connection.ofText (address ++ ';' :: one) timeout = connection at alike ⊢
  generalize Connection.ofText (address ++ ';' :: other) timeout = another at alike ⊢
  cases alike with
  | error failure => rfl
  | ok alike =>
      exact congrArg Except.ok ((Session.Alike.started alike answers).driven caller count).1

/-- Opens the connection and then asks for a scalar, again and again. -/
def asking : Caller := fun seen =>
  if seen.isEmpty then .openConnection false
  else .executeScalar ⟨"SELECT 1", none, .int 5, .empty⟩

/-- The authorizations that the POSTs of that caller carry. -/
def askingHeaders (string : Text) : Option (List Text) :=
  (Connection.ofText string (.int 30)).toOption.map fun connection =>
    ((Session.start connection fun _ => .canceled).driven asking 2).2.posts.map
      Http.Post.authorization

theorem token_stays_hidden_asking :
    askingHeaders "https://db.test;alpha" = some ["Bearer alpha".toList] ∧
      askingHeaders "https://db.test;beta" = some ["Bearer beta".toList] ∧
      observations "https://db.test;alpha" (.int 30) (fun _ => .canceled) asking 2 =
        observations "https://db.test;beta" (.int 30) (fun _ => .canceled) asking 2 := by
  have first : IsBearer "alpha" := ⟨by decide, by decide, by decide, by decide +kernel⟩
  have second : IsBearer "beta" := ⟨by decide, by decide, by decide, by decide +kernel⟩
  refine ⟨by decide +kernel, by decide +kernel, ?_⟩
  exact token_stays_hidden first second "https://db.test" _ _ asking 2

end SqlPipeline
