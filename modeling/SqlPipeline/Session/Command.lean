import SqlPipeline.Batch.Building
import SqlPipeline.Reply.Affected
import SqlPipeline.Reply.Scalar
import SqlPipeline.Reply.Tables
import SqlPipeline.Result.Reader
import SqlPipeline.Session.Basic

/-!
Commands: a text with its parameters, run in one of three ways. Run for its effect, each statement
is a POST of its own, and the counts of affected rows add up. Run for a scalar or for tables, all
statements go into one POST.
-/

namespace SqlPipeline

structure Command where
  text : Text
  transaction? : Option Nat
  timeout : Value
  parameters : Parameters

namespace Command

/-- A command of a session, in the given transaction or else in the active one. -/
def create (session : Session) (text : Text) (transaction? : Option Nat) : Command :=
  ⟨text, transaction?.or session.activeTransaction?, session.connection.timeout, .empty⟩

/-- The limit of a request: the timeout, or none for a timeout that is not above zero. -/
def requestTimeout (command : Command) : Except Fault Value :=
  match command.timeout.isPositive with
  | .ok limited => .ok (if limited then command.timeout else .null)
  | .error .notNumeric => .error .wrongType
  | .error _ => .error .incomparable

/-- One batch of all statements. -/
def batch (command : Command) : Outcome Batch :=
  match Sql.split command.text with
  | [] => .error (.library (.ofSql .commandEmpty command.text))
  | statement :: later =>
      Batch.ofStatements (statement :: later)
        ((statement :: later).map (Sql.classify .atStart)) command.parameters (some command.text)
        true

def postBatch (command : Command) (transport : Transport) (batch : Batch) : Operation Reply := do
  let timeout ← Operation.lift (Fault.lift command.requestTimeout)
  Operation.post transport timeout batch

/-- Posts one statement and gives the number of rows it affected. -/
def runStatement (command : Command) (transport : Transport) (statement : Text) :
    Operation Int := do
  let batch ← Operation.lift
    (Batch.ofModification (Sql.classify .anywhere statement) statement command.parameters)
  let reply ← command.postBatch transport batch
  Operation.lift (Reply.affected batch reply)

def runStatements (command : Command) (transport : Transport) : List Text -> Operation Int
  | [] => return 0
  | statement :: later => do
      let affected ← command.runStatement transport statement
      return affected + (← command.runStatements transport later)

/-- Runs a command for its effect; blank text does nothing. -/
def execute (command : Command) : Operation Int := do
  if (Text.trim command.text).isEmpty then return 0
  else command.runStatements (← Operation.transport) (Sql.split command.text)

/-- Posts all statements at once. -/
def ask (command : Command) : Operation (Batch × Reply) := do
  let batch ← Operation.lift command.batch
  let transport ← Operation.transport
  return (batch, ← command.postBatch transport batch)

def executeScalar (command : Command) : Operation Value := do
  let (batch, reply) ← command.ask
  Operation.lift (Reply.scalar batch reply)

def executeReader (command : Command) : Operation Result.Reader := do
  let (batch, reply) ← command.ask
  let found ← Operation.lift (Reply.tables batch reply)
  return .ofTables found.tables found.affected

/-- A command that is running cannot be stopped from here. -/
def cancel (_ : Command) : Outcome Unit :=
  .error (.cause .cancelUnsupported)

def inspect (command : Command) : Text :=
  "Command(text=" ++ Text.quoted command.text ++ ", parameters="
    ++ Text.decimal command.parameters.size ++ ")"

end Command
end SqlPipeline
