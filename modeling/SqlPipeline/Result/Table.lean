import SqlPipeline.Failure
import SqlPipeline.Result.Column

/-!
Tables of decoded rows. A column is found by its name, or else by the name in another letter case.
-/

namespace SqlPipeline
namespace Result

structure Table where
  columns : List Column
  rows : List (List Value)

namespace Table

/-- One column with one row. -/
def ofValue (name : Text) (value : Value) : Table :=
  ⟨[⟨name, .ofName value.typeName, none⟩], [[value]]⟩

def names (table : Table) : List Text :=
  table.columns.map Column.name

def ordinal? (table : Table) (name : Text) : Option Nat :=
  (table.columns.findIdx? fun column => column.name = name).or
    (table.columns.findIdx? fun column => Text.lower column.name = Text.lower name)

def ordinal (table : Table) (name : Text) : Except Fault Nat :=
  match table.ordinal? name with
  | some index => .ok index
  | none => .error (.noColumn name)

end Table
end Result
end SqlPipeline
