import SqlPipeline.Json.Printer
import SqlPipeline.Sql.Statement
import SqlPipeline.Wire.Request

/-!
A batch is what one POST carries: requests in order, each with the role it plays and the operation
it performs. A keyed batch also remembers which row it is about.
-/

namespace SqlPipeline

inductive Role where
  | verify
  | main
  | changes
  | refresh
  | close
  deriving DecidableEq, Repr

def Role.name : Role -> Text
  | verify => "verify"
  | main => "main"
  | changes => "changes"
  | refresh => "refresh"
  | close => "close"

structure BatchEntry where
  request : Wire.Request
  role : Role
  operation : Sql.Operation
  deriving DecidableEq, Repr

structure Batch where
  sql : Text
  entries : List BatchEntry
  key : Value
  expectedVersion : Value

namespace Batch

def execute (statement : Wire.Statement) (role : Role) (operation : Sql.Operation) : BatchEntry :=
  ⟨.execute statement, role, operation⟩

def closing : BatchEntry := ⟨.close, .close, .other⟩

def size (batch : Batch) : Nat :=
  batch.entries.length

def requests (batch : Batch) : List Wire.Request :=
  batch.entries.map BatchEntry.request

def roles (batch : Batch) : List Role :=
  batch.entries.map BatchEntry.role

/-- The position of the first request of a role. -/
def indexOf? (batch : Batch) (role : Role) : Option Nat :=
  batch.entries.findIdx? fun entry => entry.role = role

def isKeyed (batch : Batch) : Bool :=
  batch.roles.contains .verify

/-- The operation at a position, past the end one of no interest. -/
def operationAt (batch : Batch) (index : Nat) : Sql.Operation :=
  match batch.entries[index]? with
  | some entry => entry.operation
  | none => .other

def mainOperation (batch : Batch) : Sql.Operation :=
  match batch.entries.find? fun entry => entry.role = .main with
  | some entry => entry.operation
  | none => .other

def body (batch : Batch) : Text :=
  Json.render (Wire.document batch.requests)

end Batch
end SqlPipeline
