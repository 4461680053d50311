import SqlPipeline.Http.Exchange
import SqlPipeline.Reply.Answer
import SqlPipeline.Session.Connection
import SqlPipeline.Session.Transaction

/-!
A session is a connection with the transactions begun so far, and with the exchanges with its
server: the POSTs sent so far, and the answers that the server gives to the first POST, the second
and so on. Operations change a session also when they fail.
-/

namespace SqlPipeline

structure Session where
  connection : Connection
  transactions : List Transaction
  posts : List Http.Post
  answers : Nat -> Http.Answer

/-- An operation on a session: its outcome, and the session after it. -/
abbrev Operation (α : Type) := ExceptT Failure (StateM Session) α

namespace Session

def start (connection : Connection) (answers : Nat -> Http.Answer) : Session :=
  ⟨connection, [], [], answers⟩

def transaction? (session : Session) (number : Nat) : Option Transaction :=
  session.transactions[number]?

/-- The transaction that a new command belongs to. -/
def activeTransaction? (session : Session) : Option Nat := do
  let number ← session.connection.transaction?
  let transaction ← session.transaction? number
  if transaction.isActive then some number else none

def openConnection (session : Session) : Session :=
  { session with connection := session.connection.opened }

def disposeTransaction (session : Session) (number : Nat) : Session :=
  { session with transactions := session.transactions.modify number Transaction.dispose }

/-- Disposes the transaction that was begun last. -/
def disposeCurrent (session : Session) : Session :=
  match session.connection.transaction? with
  | some number => session.disposeTransaction number
  | none => session

def closeConnection (session : Session) : Session :=
  let session := session.disposeCurrent
  { session with connection := { session.connection.closed with transaction? := none } }

def addTransaction (session : Session) (level : IsolationLevel) : Session :=
  { session with
    transactions := session.transactions ++ [.start level]
    connection := { session.connection with transaction? := some session.transactions.length } }

end Session

namespace Operation

/-- Opens the connection and waits for it, which cannot be done from within a running loop. -/
def openWaiting (isLooping : Bool) : Operation Unit := do
  if isLooping then throw (.cause .blockingCall)
  else modify Session.openConnection

/-- Begins a transaction, by the name of its level, in place of the one before it. -/
def begin (level : Text) : Operation Nat := do
  modify Session.disposeCurrent
  match IsolationLevel.ofName? level with
  | none => throw (.fault .badContent)
  | some level =>
      modify fun session => session.addTransaction level
      return (← get).transactions.length - 1

def lift (outcome : Outcome α) : Operation α :=
  match outcome with
  | .ok x => pure x
  | .error failure => throw failure

/-- Finishes a transaction in one of the two ways. -/
def finish (change : Transaction -> Except Cause Transaction) (number : Nat) : Operation Unit := do
  match (← get).transaction? number with
  | none => throw (.fault .badIndex)
  | some transaction =>
      match change transaction with
      | .error cause => throw (.cause cause)
      | .ok finished =>
          modify fun session =>
            { session with transactions := session.transactions.set number finished }

def commit (number : Nat) : Operation Unit :=
  finish Transaction.commit number

def rollback (number : Nat) : Operation Unit :=
  finish Transaction.rollback number

/-- The transport of the connection, which is opened if it is not open. -/
def transport : Operation Transport := do
  modify Session.openConnection
  match (← get).connection.transport? with
  | some transport => return transport
  | none => throw (.fault .noTransport)

/-- Sends a POST and takes the server's answer to it. -/
def send (post : Http.Post) : Operation Http.Answer := do
  let session ← get
  set { session with posts := session.posts ++ [post] }
  return session.answers session.posts.length

/-- Posts a batch and reads the reply to it. -/
def post (transport : Transport) (timeout : Value) (batch : Batch) : Operation Reply := do
  let body := batch.body
  let request ← lift (Fault.lift (Http.Post.make transport.string timeout body))
  let answer ← send request
  if request.loses answer then throw (.fault .badContent)
  lift (Reply.ofAnswer batch body answer)

end Operation
end SqlPipeline
