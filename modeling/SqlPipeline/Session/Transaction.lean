import SqlPipeline.Failure

/-!
Transactions. A transaction only tells what became of it, for every POST stands alone on the server.
It is finished by a commit or a rollback, and it refuses both once it is finished or disposed.
-/

namespace SqlPipeline

inductive IsolationLevel where
  | unspecified
  | readUncommitted
  | readCommitted
  | repeatableRead
  | serializable
  | snapshot
  deriving DecidableEq, Repr

namespace IsolationLevel

def name : IsolationLevel -> Text
  | unspecified => "unspecified"
  | readUncommitted => "read_uncommitted"
  | readCommitted => "read_committed"
  | repeatableRead => "repeatable_read"
  | serializable => "serializable"
  | snapshot => "snapshot"

def all : List IsolationLevel :=
  [unspecified, readUncommitted, readCommitted, repeatableRead, serializable, snapshot]

def ofName? (name : Text) : Option IsolationLevel :=
  all.find? fun level => level.name = name

end IsolationLevel

inductive TransactionState where
  | active
  | committed
  | rolledBack
  deriving DecidableEq, Repr

def TransactionState.name : TransactionState -> Text
  | active => "active"
  | committed => "committed"
  | rolledBack => "rolled_back"

structure Transaction where
  level : IsolationLevel
  state : TransactionState
  isDisposed : Bool
  deriving DecidableEq, Repr

namespace Transaction

/-- Each POST closes its stream, in a transaction as well. -/
def mode : Text := "close"

def start (level : IsolationLevel) : Transaction :=
  ⟨level, .active, false⟩

def isActive (transaction : Transaction) : Bool :=
  transaction.state = .active && !transaction.isDisposed

def ensureActive (transaction : Transaction) : Except Cause Unit :=
  if transaction.isDisposed then .error .transactionDisposed
  else
    match transaction.state with
    | .active => .ok ()
    | .committed => .error .transactionCommitted
    | .rolledBack => .error .transactionRolledBack

def commit (transaction : Transaction) : Except Cause Transaction := do
  transaction.ensureActive
  .ok { transaction with state := .committed }

def rollback (transaction : Transaction) : Except Cause Transaction := do
  transaction.ensureActive
  .ok { transaction with state := .rolledBack }

/-- Rolls back what is still active and refuses all further use. -/
def dispose (transaction : Transaction) : Transaction :=
  if transaction.isActive then ⟨transaction.level, .rolledBack, true⟩
  else { transaction with isDisposed := true }

end Transaction
end SqlPipeline
