import SqlPipeline.Reply.Basic
import SqlPipeline.Result.Table

/-!
The tables of a reply: one for each result with columns, whose cells are brought to the types of
their columns. Results without columns add up to the number of rows affected.
-/

namespace SqlPipeline
namespace Reply

open Result (CellType Column Table)

def coerceInteger : Value -> Value
  | .text s => Wire.orNull ((Numeral.integer? (Text.trim s)).map .int)
  | .real x => if x.isWhole then Wire.orNull (x.truncate?.map .int) else .real x
  | value => value

def coerceReal (value : Value) : Except Fault Value :=
  match value with
  | .bool _ => Wire.decodeReal value
  | .int _ => Wire.decodeReal value
  | .text _ => Wire.decodeReal value
  | value => .ok value

def coerceStamp (value : Value) : Except Fault Value :=
  match value with
  | .text s => Wire.expectStamp (.text s)
  | value => .ok value

/-- Brings a decoded cell to the type of its column, where it is written in another way. -/
def coerce (type : CellType) (value : Value) : Except Fault Value :=
  match type with
  | .integer => .ok (coerceInteger value)
  | .real => coerceReal value
  | .stamp => coerceStamp value
  | _ => .ok value

def readCell (type : CellType) (cell : Value) : Except Fault Value := do
  coerce type (← Wire.decodeCell .anything cell)

/-- A cell of a table; what is missing from a row is null. -/
def cell (batch : Batch) (reply : Reply) (row : List Value) (column : Column) (ordinal : Nat) :
    Outcome Value :=
  match readCell column.type (row[ordinal]?.getD .null) with
  | .ok value => .ok value
  | .error fault =>
      if fault.isContent then
        .error (refuse batch reply (.cellUnreadable ordinal (reasonOf fault)))
      else .error (.fault fault)

def row (batch : Batch) (reply : Reply) (columns : List Column) (cells : List Value) :
    Outcome (List Value) :=
  columns.zipIdx.mapM fun (column, ordinal) => cell batch reply cells column ordinal

def columnsOf (result : Wire.StatementResult) : List Column :=
  Column.distinct (result.columns.map fun column => (column.name?, column.declared?))

def table (batch : Batch) (reply : Reply) (result : Wire.StatementResult) : Outcome Table := do
  let columns := columnsOf result
  .ok ⟨columns, ← result.rows.mapM (row batch reply columns)⟩

structure Tables where
  tables : List Table
  affected : Int

/-- The results that were executed, in order. -/
def executed (reply : Reply) : List Wire.StatementResult :=
  reply.results.filterMap id

/-- The sum of the counts of results without columns, and -1 when there are none. -/
def affectedCount (results : List Wire.StatementResult) : Int :=
  results.foldl (fun count result =>
    if result.columns.isEmpty then max count 0 + result.affected else count) (-1)

def tables (batch : Batch) (reply : Reply) : Outcome Tables := do
  if reply.response.entries.isEmpty then .ok ⟨[.ofValue "Value" (.int 0)], -1⟩
  else
    let withColumns := reply.executed.filter fun result => !result.columns.isEmpty
    .ok ⟨← withColumns.mapM (table batch reply), affectedCount reply.executed⟩

end Reply
end SqlPipeline
