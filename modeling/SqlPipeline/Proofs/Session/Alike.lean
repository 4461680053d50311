import SqlPipeline.Facade.Basic
import SqlPipeline.Proofs.Session.Operation

/-!
Sessions that are alike differ in their tokens only, and in the authorization of what they have
posted. Operations are compared by running them side by side in sessions that are alike: two that
agree end in the same way, and leave sessions that are alike again.
-/

namespace SqlPipeline

open Operation (runIn)

/-- Two runs end alike: by results that are related, or by the same failure. -/
inductive Outcome.Alike {ε α β : Type} (R : α -> β -> Prop) : Except ε α -> Except ε β -> Prop where
  | ok {x : α} {y : β} (related : R x y) : Alike R (.ok x) (.ok y)
  | error (failure : ε) : Alike R (.error failure) (.error failure)

theorem Outcome.Alike.eq {ε α : Type} {one other : Except ε α} (alike : Alike Eq one other) :
    one = other := by
  cases alike with
  | ok same => rw [same]
  | error failure => rfl

theorem Outcome.Alike.lifted {α β : Type} {R : α -> β -> Prop} {one : Except Fault α}
    {other : Except Fault β} (alike : Alike R one other) :
    Alike R (Fault.lift one) (Fault.lift other) := by
  cases alike with
  | ok related => exact .ok related
  | error fault => exact .error (Failure.fault fault)

/-- Strings for one address, each with a token that can be sent. -/
structure ConnectionString.Alike (one other : ConnectionString) : Prop where
  url : one.url = other.url
  sendable : one.token.all Text.isAscii = true
  otherSendable : other.token.all Text.isAscii = true

def Transport.Alike (one other : Transport) : Prop :=
  one.string.Alike other.string

structure Connection.Alike (one other : Connection) : Prop where
  string : one.string.Alike other.string
  timeout : one.timeout = other.timeout
  state : one.state = other.state
  transport : Option.Rel Transport.Alike one.transport? other.transport?
  current : one.transaction? = other.transaction?

structure Http.Post.Alike (one other : Http.Post) : Prop where
  target : one.target = other.target
  timeout : one.timeout = other.timeout
  body : one.body = other.body

structure Session.Alike (one other : Session) : Prop where
  connection : one.connection.Alike other.connection
  transactions : one.transactions = other.transactions
  posts : List.Forall₂ Http.Post.Alike one.posts other.posts
  answers : one.answers = other.answers

theorem ConnectionString.Alike.readOnly {one other : ConnectionString} (alike : one.Alike other) :
    one.readOnly.Alike other.readOnly := by
  refine ⟨?_, alike.sendable, alike.otherSendable⟩
  rw [ConnectionString.readOnly, ConnectionString.readOnly, alike.url]

namespace Connection.Alike

variable {one other : Connection}

theorem made {string another : ConnectionString} (alike : string.Alike another) (timeout : Value) :
    (make string timeout).Alike (make another timeout) :=
  ⟨alike, rfl, rfl, .none, rfl⟩

theorem readOnly (alike : one.Alike other) : one.readOnly.Alike other.readOnly := by
  rw [Connection.readOnly, Connection.readOnly, alike.timeout]
  exact made alike.string.readOnly _

theorem opened (alike : one.Alike other) : one.opened.Alike other.opened := by
  rw [Connection.opened, Connection.opened, alike.state]
  by_cases already : other.state = .opened
  · rw [if_pos already, if_pos already]
    exact alike
  · rw [if_neg already, if_neg already]
    exact { alike with state := rfl, transport := .some alike.string }

theorem closed (alike : one.Alike other) : one.closed.Alike other.closed := by
  rw [Connection.closed, Connection.closed, alike.state]
  by_cases already : other.state = .closed
  · rw [if_pos already, if_pos already]
    exact alike
  · rw [if_neg already, if_neg already]
    exact { alike with state := rfl, transport := .none }

end Connection.Alike

namespace Session.Alike

variable {one other : Session}

theorem started {connection another : Connection} (alike : connection.Alike another)
    (answers : Nat -> Http.Answer) : (start connection answers).Alike (start another answers) :=
  ⟨alike, rfl, .nil, rfl⟩

theorem openConnection (alike : one.Alike other) :
    one.openConnection.Alike other.openConnection :=
  { alike with connection := alike.connection.opened }

theorem disposeTransaction (alike : one.Alike other) (number : Nat) :
    (one.disposeTransaction number).Alike (other.disposeTransaction number) := by
  refine { alike with transactions := ?_ }
  rw [Session.disposeTransaction, Session.disposeTransaction, alike.transactions]

theorem disposeCurrent (alike : one.Alike other) :
    one.disposeCurrent.Alike other.disposeCurrent := by
  rw [Session.disposeCurrent, Session.disposeCurrent, alike.connection.current]
  cases other.connection.transaction? with
  | none => exact alike
  | some number => exact alike.disposeTransaction number

theorem closeConnection (alike : one.Alike other) :
    one.closeConnection.Alike other.closeConnection :=
  let disposed := alike.disposeCurrent
  { disposed with connection := { disposed.connection.closed with current := rfl } }

theorem addTransaction (alike : one.Alike other) (level : IsolationLevel) :
    (one.addTransaction level).Alike (other.addTransaction level) := by
  refine { alike with connection := { alike.connection with current := ?_ }, transactions := ?_ }
  · exact congrArg (some ·.length) alike.transactions
  · exact congrArg (· ++ [.start level]) alike.transactions

theorem readOnly (alike : one.Alike other) :
    Session.Alike { one with connection := one.connection.readOnly }
      { other with connection := other.connection.readOnly } :=
  { alike with connection := alike.connection.readOnly }

theorem posting {post another : Http.Post} (alike : one.Alike other) (same : post.Alike another) :
    (one.posting [post]).Alike (other.posting [another]) :=
  { alike with posts := List.rel_append alike.posts (.cons same .nil) }

theorem nextAnswer (alike : one.Alike other) : one.nextAnswer = other.nextAnswer := by
  rw [Session.nextAnswer, Session.nextAnswer, alike.answers, alike.posts.length_eq]

/-- A new command has nothing of a token. -/
theorem command (alike : one.Alike other) (text : Text) (transaction? : Option Nat) :
    Command.create one text transaction? = Command.create other text transaction? := by
  have active : one.activeTransaction? = other.activeTransaction? := by
    unfold Session.activeTransaction? Session.transaction?
    rw [alike.connection.current, alike.transactions]
  rw [Command.create, Command.create, active, alike.connection.timeout]

theorem facadeCommand (alike : one.Alike other) (sql : Text) (values : List Value) :
    Facade.command one sql values = Facade.command other sql values := by
  rw [Facade.command, Facade.command, alike.command]

end Session.Alike

/-- A token that can be sent is of no account to whether there is a POST, and where it goes. -/
theorem Http.Post.make_alike {one other : ConnectionString} (alike : one.Alike other)
    (timeout : Value) (body : Text) :
    Outcome.Alike Http.Post.Alike (make one timeout body) (make other timeout body) := by
  unfold make
  rw [alike.url]
  cases Url.ofText? other.url with
  | none => exact .error Fault.badAddress
  | some url =>
      dsimp only
      rw [List.all_append, List.all_append, alike.sendable, alike.otherSendable]
      by_cases unreachable : (!url.target.isReachable) = true
      · rw [if_pos unreachable, if_pos unreachable]
        exact .error Fault.badAddress
      · rw [if_neg unreachable, if_neg unreachable]
        split
        · exact .ok ⟨rfl, rfl, rfl⟩
        · exact .error Fault.unencodable

namespace Operation

variable {α β γ δ : Type}

/-- Run in sessions that are alike, two operations end alike and leave such sessions. -/
def Agree (R : α -> β -> Prop) (first : Operation α) (second : Operation β) : Prop :=
  ∀ one other : Session, one.Alike other ->
    Outcome.Alike R (runIn first one).1 (runIn second other).1 ∧
      (runIn first one).2.Alike (runIn second other).2

/-- An operation that tokens are of no account to. -/
def IsBlind (operation : Operation α) : Prop :=
  Agree Eq operation operation

section Rules

variable {R : α -> β -> Prop} {S : γ -> δ -> Prop}

theorem agree_pure {x : α} {y : β} (related : R x y) :
    Agree R (pure x : Operation α) (pure y : Operation β) :=
  fun _ _ alike => ⟨.ok related, alike⟩

theorem agree_throw (failure : Failure) :
    Agree R (throw failure : Operation α) (throw failure : Operation β) :=
  fun _ _ alike => ⟨.error failure, alike⟩

theorem agree_lift {outcome : Outcome α} {another : Outcome β}
    (ended : Outcome.Alike R outcome another) : Agree R (lift outcome) (lift another) := by
  cases ended with
  | ok related => exact agree_pure related
  | error failure => exact agree_throw failure

theorem agree_get : Agree Session.Alike (get : Operation Session) get :=
  fun _ _ alike => ⟨.ok alike, alike⟩

theorem Agree.bind {first : Operation α} {second : Operation β} {next : α -> Operation γ}
    {onward : β -> Operation δ} (agree : Agree R first second)
    (later : ∀ x y, R x y -> Agree S (next x) (onward y)) :
    Agree S (first >>= next) (second >>= onward) := by
  intro one other alike
  obtain ⟨ended, left⟩ := agree one other alike
  rw [run_bind, run_bind]
  cases ran : runIn first one with
  | mk outcome between =>
      cases run : runIn second other with
      | mk another among =>
          rw [ran, run] at ended left
          cases ended with
          | ok related => exact later _ _ related between among left
          | error failure => exact ⟨.error failure, left⟩

theorem blind_pure (x : α) : IsBlind (pure x : Operation α) :=
  agree_pure rfl

theorem blind_lift (outcome : Outcome α) : IsBlind (lift outcome) := by
  refine agree_lift ?_
  cases outcome with
  | ok x => exact .ok rfl
  | error failure => exact .error failure

theorem blind_modify {change : Session -> Session}
    (keeps : ∀ one other : Session, one.Alike other -> (change one).Alike (change other)) :
    IsBlind (modify change : Operation PUnit) :=
  fun one other alike => ⟨.ok rfl, keeps one other alike⟩

/-- What comes of two operations that agree can be used in the same way. -/
theorem Agree.follow {first second : Operation α} {next : α -> Operation γ}
    {onward : α -> Operation δ} (agree : Agree Eq first second)
    (later : ∀ x, Agree S (next x) (onward x)) : Agree S (first >>= next) (second >>= onward) := by
  refine agree.bind fun x y same => ?_
  rw [same]
  exact later y

end Rules

theorem send_agrees {post another : Http.Post} (same : post.Alike another) :
    Agree Eq (send post) (send another) :=
  fun _ _ alike => ⟨.ok alike.nextAnswer, alike.posting same⟩

theorem transport_agrees : Agree Transport.Alike transport transport := by
  refine (blind_modify fun _ _ alike => alike.openConnection).follow fun _ => ?_
  refine agree_get.bind fun one other alike => ?_
  have found := alike.connection.transport
  generalize one.connection.transport? = transport? at found ⊢
  generalize other.connection.transport? = another? at found ⊢
  cases found with
  | none => exact agree_throw _
  | some same => exact agree_pure same

theorem post_agrees {transport another : Transport} (same : transport.Alike another)
    (timeout : Value) (batch : Batch) :
    Agree Eq (post transport timeout batch) (post another timeout batch) := by
  refine (agree_lift (Http.Post.make_alike same timeout batch.body).lifted).bind ?_
  intro request copy like
  refine (send_agrees like).follow fun answer => ?_
  have loses : request.loses answer = copy.loses answer := by
    unfold Http.Post.loses
    rw [like.target]
  rw [loses]
  split
  · exact agree_throw _
  · exact blind_lift _

theorem begin_blind (level : Text) : IsBlind (begin level) := by
  refine (blind_modify fun _ _ alike => alike.disposeCurrent).follow fun _ => ?_
  cases IsolationLevel.ofName? level with
  | none => exact agree_throw _
  | some level =>
      refine (blind_modify fun _ _ alike => alike.addTransaction level).follow fun _ => ?_
      refine agree_get.bind fun one other alike => ?_
      rw [alike.transactions]
      exact blind_pure _

theorem finish_blind (change : Transaction -> Except Cause Transaction) (number : Nat) :
    IsBlind (finish change number) := by
  refine agree_get.bind fun one other alike => ?_
  rw [Session.transaction?, Session.transaction?, alike.transactions]
  cases other.transactions[number]? with
  | none => exact agree_throw _
  | some transaction =>
      dsimp only
      cases change transaction with
      | error cause => exact agree_throw _
      | ok finished =>
          refine blind_modify fun one other alike => { alike with transactions := ?_ }
          rw [alike.transactions]

theorem open_waiting_blind (isLooping : Bool) : IsBlind (openWaiting isLooping) := by
  unfold openWaiting
  split
  · exact agree_throw _
  · exact blind_modify fun _ _ alike => alike.openConnection

end Operation

namespace Command

open Operation

variable (command : Command) {transport another : Transport}

theorem post_batch_agrees (same : transport.Alike another) (batch : Batch) :
    Agree Eq (command.postBatch transport batch) (command.postBatch another batch) :=
  (blind_lift _).follow fun timeout => post_agrees same timeout batch

theorem run_statement_agrees (same : transport.Alike another) (statement : Text) :
    Agree Eq (command.runStatement transport statement) (command.runStatement another statement) := by
  refine (blind_lift _).follow fun batch => ?_
  refine (command.post_batch_agrees same batch).follow fun reply => ?_
  exact blind_lift _

theorem run_statements_agrees (same : transport.Alike another) (statements : List Text) :
    Agree Eq (command.runStatements transport statements)
      (command.runStatements another statements) := by
  induction statements with
  | nil => exact blind_pure 0
  | cons statement later ih =>
      refine (command.run_statement_agrees same statement).follow fun affected => ?_
      exact ih.follow fun rest => blind_pure (affected + rest)

theorem execute_blind : IsBlind command.execute := by
  unfold execute
  split
  · exact blind_pure 0
  · exact transport_agrees.bind fun _ _ same => command.run_statements_agrees same _

theorem ask_blind : IsBlind command.ask := by
  refine (blind_lift command.batch).follow fun batch => ?_
  refine transport_agrees.bind fun transport another same => ?_
  exact (command.post_batch_agrees same batch).follow fun reply => blind_pure (batch, reply)

theorem scalar_blind : IsBlind command.executeScalar :=
  command.ask_blind.follow fun _ => blind_lift _

theorem reader_blind : IsBlind command.executeReader :=
  command.ask_blind.follow fun _ => (blind_lift _).follow fun _ => blind_pure _

end Command

namespace Facade

open Operation

variable (sql : Text)

theorem execute_blind (values : List Value) : IsBlind (execute sql values) := by
  refine agree_get.bind fun one other alike => ?_
  rw [alike.facadeCommand sql values]
  dsimp only
  split
  · exact (command other sql values).reader_blind.follow fun _ => blind_pure _
  · exact (command other sql values).execute_blind.follow fun _ => blind_pure _

theorem scalar_blind (values : List Value) : IsBlind (scalar sql values) := by
  refine agree_get.bind fun one other alike => ?_
  rw [alike.facadeCommand sql values]
  exact Command.scalar_blind _

theorem execute_many_blind (sets : List (List Value)) : IsBlind (executeMany sql sets) := by
  induction sets with
  | nil => exact blind_pure 0
  | cons values later ih =>
      refine agree_get.bind fun one other alike => ?_
      rw [alike.facadeCommand sql values]
      refine (Command.execute_blind _).follow fun affected => ?_
      exact ih.follow fun rest => blind_pure (affected + rest)

theorem execute_script_blind : IsBlind (executeScript sql) := by
  refine agree_get.bind fun one other alike => ?_
  rw [alike.command sql none]
  exact (Command.execute_blind _).follow fun _ => blind_pure ()

end Facade
end SqlPipeline
