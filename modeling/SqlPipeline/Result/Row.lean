import SqlPipeline.Key
import SqlPipeline.Members
import SqlPipeline.Result.Table
import SqlPipeline.Value.Display

/-!
Rows of a table, whose cells are found by the names of the columns or by position.
-/

namespace SqlPipeline
namespace Result

structure Row where
  table : Table
  values : List Value

namespace Row

def names (row : Row) : List Text :=
  row.table.names

def size (row : Row) : Nat :=
  row.values.length

def item (row : Row) : Key -> Except Fault Value
  | .position index => Position.item row.values index
  | .name name => do Position.item row.values (← row.table.ordinal name)

/-- The cells by name, for a row that has one cell for each column. -/
def toMembers (row : Row) : Except Fault (Members Value) :=
  if row.names.length = row.values.length then .ok (Members.ofList (row.names.zip row.values))
  else .error .badContent

def inspect (row : Row) : Except Fault Text := do
  let entries ← row.toMembers
  let shown ← orTooLong (Value.inspect? (.dict entries))
  .ok ("Row(" ++ shown ++ ")")

end Row
end Result
end SqlPipeline
