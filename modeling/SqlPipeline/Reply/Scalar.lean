import SqlPipeline.Reply.Basic

/-!
The scalar of a reply: the first cell of the last result that has rows, or else the count of the
last statement that modifies. Nothing reads as zero when the text counts rows or looks into the
schema.
-/

namespace SqlPipeline
namespace Reply

def lastWithRows (results : List (Option Wire.StatementResult)) : Option Wire.StatementResult :=
  results.reverse.findSome? fun result? => result?.filter fun result => !result.rows.isEmpty

/-- The affected count of a result without rows whose request modifies. -/
def countAt (batch : Batch) (result? : Option Wire.StatementResult) (index : Nat) : Option Int := do
  let result ← result?
  if result.rows.isEmpty && batch.operationAt index ≠ .other then some result.affected else none

def lastCount (batch : Batch) (results : List (Option Wire.StatementResult)) : Option Int :=
  results.zipIdx.reverse.findSome? fun (result?, index) => countAt batch result? index

def asksForExistence (sql : Text) : Bool :=
  Text.contains "COUNT(*)" sql || Text.contains "sqlite_master" sql

def orZero (sql : Text) (value : Value) : Value :=
  if value.isNull && asksForExistence sql then .int 0 else value

def cellValue (batch : Batch) (reply : Reply) (cell : Value) : Outcome Value :=
  match Wire.decodeCell .anything cell with
  | .ok value => .ok value
  | .error fault =>
      if fault.isContent then .error (refuse batch reply (.scalarUnreadable (reasonOf fault)))
      else .error (.fault fault)

def scalar (batch : Batch) (reply : Reply) : Outcome Value := do
  match lastWithRows reply.results with
  | some result => .ok (orZero batch.sql (← cellValue batch reply result.firstCell))
  | none =>
      .ok (orZero batch.sql (match lastCount batch reply.results with
        | some count => .int count
        | none => .null))

end Reply
end SqlPipeline
