import SqlPipeline.Facade.Cursor
import SqlPipeline.Session.Command
import SqlPipeline.Sql.Placeholder

/-!
A facade for texts with bare placeholders, whose values are given by position. Texts that modify
are run for their effect, all others for their tables.
-/

namespace SqlPipeline
namespace Facade

/-- Values as parameters under the names that bare placeholders get. -/
def parameters (values : List Value) : Parameters :=
  .ofList (values.zipIdx.map fun (value, index) =>
    Parameter.make (some (Sql.facadeName index)) value none none)

def command (session : Session) (sql : Text) (values : List Value) : Command :=
  { Command.create session (Sql.nameBare sql) none with parameters := parameters values }

def execute (sql : Text) (values : List Value) : Operation Cursor := do
  let command := command (← get) sql values
  if Sql.classify .atStart sql = .other then return .ofReader (← command.executeReader)
  else return .ofCount (← command.execute)

def scalar (sql : Text) (values : List Value) : Operation Value := do
  (command (← get) sql values).executeScalar

/-- Runs a text once for each list of values and adds up the counts. -/
def executeMany (sql : Text) : List (List Value) -> Operation Int
  | [] => return 0
  | values :: later => do
      let affected ← (command (← get) sql values).execute
      return affected + (← executeMany sql later)

/-- Runs the statements of a script, whose placeholders are left as they are. -/
def executeScript (sql : Text) : Operation Unit := do
  let _ ← (Command.create (← get) sql none).execute

end Facade
end SqlPipeline
