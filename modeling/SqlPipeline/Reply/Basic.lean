import SqlPipeline.Batch.Basic
import SqlPipeline.Failure
import SqlPipeline.Json.Reader
import SqlPipeline.Wire.Cell
import SqlPipeline.Wire.Response

/-!
A reply is a response together with the texts it came from.
-/

namespace SqlPipeline

structure Reply where
  response : Wire.Response
  body : Text
  requestBody : Text
  status : Nat

namespace Reply

/-- A protocol error with all that is known of the exchange. -/
def refuse (batch : Batch) (reply : Reply) (cause : Cause) : Failure :=
  .library ⟨cause, some batch.sql, some reply.status, some reply.body, some reply.requestBody⟩

/-- The answer to the first request of a role. -/
def answerTo? (reply : Reply) (batch : Batch) (role : Role) : Option Wire.ResponseEntry := do
  reply.response.entries[← batch.indexOf? role]?

def results (reply : Reply) : List (Option Wire.StatementResult) :=
  reply.response.entries.map Wire.ResponseEntry.result?

/-- Reads a body without the checks that belong to its transport. -/
def ofBody (body : Text) : Except Fault Reply :=
  match Json.read body with
  | .error .malformed => .error .malformedJson
  | .error .tooLong => .error .badContent
  | .error .tooDeep => .error .tooDeep
  | .ok document =>
      match Wire.Response.ofJson? document with
      | none => .error .invalidResponse
      | some response => .ok ⟨response, body, [], 200⟩

def reasonOf (fault : Fault) : Text :=
  fault.message?.getD "the content cannot be used"

end Reply
end SqlPipeline
