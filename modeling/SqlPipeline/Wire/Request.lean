import SqlPipeline.Json.Basic
import SqlPipeline.Wire.Argument

/-!
Requests as they are sent: statements with positional arguments, and a close. A member that has no
content is left out of the document.
-/

namespace SqlPipeline
namespace Wire

open Json (Node)

structure Statement where
  sql : Text
  arguments : List Argument
  deriving DecidableEq, Repr

inductive Request where
  | execute (statement : Statement)
  | close
  deriving DecidableEq, Repr

def field (name : Text) (node : Node) : Text × Node := (name, node)

def Content.members : Content -> List (Text × Node)
  | null => []
  | integer digits => [field "value" (.text digits)]
  | real x => [field "value" (.real x)]
  | text s => [field "value" (.text s)]
  | blob base64 => [field "value" (.text base64)]

def Argument.nameMembers (argument : Argument) : List (Text × Node) :=
  match argument.name? with
  | none => []
  | some name => [field "name" (.text name)]

def Argument.toJson (argument : Argument) : Node :=
  .object (field "type" (.text argument.content.tag)
    :: argument.nameMembers ++ argument.content.members)

def Statement.toJson (statement : Statement) : Node :=
  .object [field "sql" (.text statement.sql),
    field "args" (.array (statement.arguments.map Argument.toJson))]

def Request.toJson : Request -> Node
  | execute statement =>
      .object [field "type" (.text "execute"), field "stmt" statement.toJson]
  | close => .object [field "type" (.text "close")]

/-- The document of a whole batch of requests. -/
def document (requests : List Request) : Node :=
  .object [field "requests" (.array (requests.map Request.toJson))]

end Wire
end SqlPipeline
