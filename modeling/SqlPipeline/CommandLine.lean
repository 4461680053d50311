import SqlPipeline.Session.Command

/-!
The command line: runs the text that the arguments make against the database of the environment,
and writes the rows of its tables.
-/

namespace SqlPipeline
namespace CommandLine

/-- What a run wrote to its two outputs and sent to the server, and the status it ended with, or
the failure that cut it short. -/
structure Report where
  status : Except Failure Nat
  output : Text
  errors : Text
  posts : List Http.Post

def usage : Text :=
  "usage: python -m libsql_http \"SQL\""

def line (cells : List Text) : Text :=
  List.intercalate ['\t'] cells ++ ['\n']

def cellText (value : Value) : Except Fault Text :=
  if value.isNull then .ok "NULL" else orTooLong value.display?

def rowText (values : List Value) : Except Fault Text := do
  .ok (line (← values.mapM cellText))

/-- The names of the columns and the rows; a table without columns is passed over. -/
def tableText (table : Result.Table) : Except Fault Text := do
  if table.columns.isEmpty then .ok []
  else .ok (line table.names ++ (← table.rows.mapM rowText).flatten)

def countText (affected : Int) : Text :=
  if affected < 0 then [] else "(" ++ Text.ofInt affected ++ " row(s) affected)\n"

def runReader (text : Text) : Operation Result.Reader := do
  modify Session.openConnection
  (Command.create (← get) text none).executeReader

def failed (posts : List Http.Post) : Failure -> Report
  | .library error => ⟨.ok 1, [], "error: " ++ error.message ++ ['\n'], posts⟩
  | failure => ⟨.error failure, [], [], posts⟩

def written (reader : Result.Reader) (posts : List Http.Post) : Report :=
  match reader.tables.mapM tableText with
  | .ok texts => ⟨.ok 0, texts.flatten, countText reader.recordsAffected, posts⟩
  | .error fault => ⟨.error (.fault fault), [], [], posts⟩

def runText (environment : Environment) (answers : Nat -> Http.Answer) (text : Text) : Report :=
  match Connection.create environment none none with
  | .error failure => failed [] failure
  | .ok connection =>
      let (outcome, session) := (runReader text).run.run (Session.start connection answers)
      match outcome with
      | .error failure => failed session.posts failure
      | .ok reader => written reader session.posts

def run (environment : Environment) (answers : Nat -> Http.Answer) (arguments : List Text) :
    Report :=
  if arguments.isEmpty then ⟨.ok 2, [], usage ++ ['\n'], []⟩
  else runText environment answers (List.intercalate [' '] arguments)

end CommandLine
end SqlPipeline
