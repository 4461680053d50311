import SqlPipeline.Http.Exchange
import SqlPipeline.Http.Status
import SqlPipeline.Reply.Basic

/-!
From the answer of a server to a reply. An answer that reports an error, or that is no response to
a batch, is refused together with all that is known of the exchange.
-/

namespace SqlPipeline
namespace Reply

open Json (Node)

/-- An exchange as far as it went: a batch, the body that was sent, and what came back. -/
structure Exchange where
  sql : Text
  requestBody : Text
  status : Nat
  body : Text

def Exchange.refuse (exchange : Exchange) (cause : Cause) : Outcome α :=
  .error (.library ⟨cause, some exchange.sql, some exchange.status, some exchange.body,
    some exchange.requestBody⟩)

/-- What an error member says: its message if it is an object that has one. -/
def errorNode : Node -> Node
  | .object members => (Members.lookup "message" members).getD (.object members)
  | node => node

/-- An error member that counts: an empty one does not. -/
def topError? (members : Members Node) : Option Node :=
  (Members.lookup "error" members).filter fun node => node.toValue.holds

/-- A lone result counts as a list of one. -/
def listed : Node -> Node
  | .object members => .array [.object members]
  | node => node

def entryError (entry : Wire.ResponseEntry) : Text :=
  match entry.error? with
  | some error => error.message
  | none => "unknown error"

def ofResponse (exchange : Exchange) (response : Wire.Response) : Outcome Reply :=
  match response.entries.find? Wire.ResponseEntry.isError with
  | some entry => exchange.refuse (.serverError (entryError entry))
  | none => .ok ⟨response, exchange.body, exchange.requestBody, exchange.status⟩

def ofMembers (exchange : Exchange) (members : Members Node) : Outcome Reply :=
  match topError? members, Members.lookup "results" members with
  | some error, _ => do
      let shown ← Fault.lift (orTooLong (errorNode error).toValue.display?)
      exchange.refuse (.serverError shown)
  | none, none => exchange.refuse .missingResults
  | none, some results =>
      match Wire.Response.ofJson? (.object (Members.assign "results" (listed results) members)) with
      | none => exchange.refuse .unexpectedResponse
      | some response => ofResponse exchange response

def ofBodyChecked (exchange : Exchange) : Outcome Reply :=
  match Json.read exchange.body with
  | .error .malformed => exchange.refuse .unreadableBody
  | .error .tooLong => .error (.fault .badContent)
  | .error .tooDeep => .error (.fault .tooDeep)
  | .ok (.object members) => ofMembers exchange members
  | .ok _ => exchange.refuse .notAnObject

/-- The reply that an answer gives to a batch that was sent as `requestBody`. -/
def ofAnswer (batch : Batch) (requestBody : Text) : Http.Answer -> Outcome Reply
  | .canceled => .error (.canceled batch.sql)
  | .failed reason =>
      .error (.library ⟨.requestFailed reason, some batch.sql, none, none, some requestBody⟩)
  | .response status body =>
      let exchange : Exchange := ⟨batch.sql, requestBody, status, body⟩
      if Http.isSuccess status then ofBodyChecked exchange
      else exchange.refuse (.badStatus status (Http.phrase status))

end Reply
end SqlPipeline
