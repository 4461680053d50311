import SqlPipeline.Result.Row
import SqlPipeline.Value.Cast

/-!
A reader goes forward through tables and through the rows of each. It holds the tables from the
current one on, the current row, and the rows of the current table that are still to be read.
-/

namespace SqlPipeline
namespace Result

structure Reader where
  tables : List Table
  current? : Option (List Value)
  pending : List (List Value)
  isClosed : Bool
  recordsAffected : Int

namespace Reader

def rowsOf : List Table -> List (List Value)
  | [] => []
  | table :: _ => table.rows

/-- A reader before the first row of the first table. -/
def ofTables (tables : List Table) (recordsAffected : Int) : Reader :=
  ⟨tables, none, rowsOf tables, false, recordsAffected⟩

def table? (reader : Reader) : Option Table :=
  reader.tables.head?

def columns (reader : Reader) : List Column :=
  (reader.table?.map Table.columns).getD []

def fieldCount (reader : Reader) : Nat :=
  reader.columns.length

def hasRows (reader : Reader) : Bool :=
  !(rowsOf reader.tables).isEmpty

def ensureOpen (reader : Reader) : Outcome Unit :=
  if reader.isClosed then .error (.cause .readerClosed) else .ok ()

/-- Moves to the next row, if there is one. -/
def advance (reader : Reader) : Reader :=
  { reader with current? := reader.pending.head?, pending := reader.pending.tail }

/-- Moves to the next row and tells whether there is one. -/
def read (reader : Reader) : Outcome (Bool × Reader) := do
  reader.ensureOpen
  .ok (reader.advance.current?.isSome, reader.advance)

/-- Moves to the next table and tells whether there is one. -/
def nextResult (reader : Reader) : Outcome (Bool × Reader) := do
  reader.ensureOpen
  let later := reader.tables.tail
  .ok (!later.isEmpty, { reader with tables := later, current? := none, pending := rowsOf later })

def close (reader : Reader) : Reader :=
  { reader with isClosed := true }

def requireTable (reader : Reader) : Outcome Table :=
  match reader.table? with
  | some table => .ok table
  | none => .error (.cause .noCurrentResult)

/-- The cells of the current row. -/
def values (reader : Reader) : Outcome (List Value) := do
  reader.ensureOpen
  let _ ← reader.requireTable
  match reader.current? with
  | some values => .ok values
  | none => .error (.cause .noCurrentRow)

/-- Moves to the next row and gives it, if there is one. -/
def nextRow (reader : Reader) : Outcome (Option Row × Reader) := do
  let (found, reader) ← reader.read
  if found then .ok (some ⟨← reader.requireTable, ← reader.values⟩, reader) else .ok (none, reader)

/-- The rows of the current table that are still to be read. -/
def remainingRows (reader : Reader) : List Row :=
  match reader.table? with
  | some table => reader.pending.map fun values => ⟨table, values⟩
  | none => []

/-- A reader past the last row of its table. -/
def pastRows (reader : Reader) : Reader :=
  { reader with current? := none, pending := [] }

/-- Reads all remaining rows of the current table. -/
def rows (reader : Reader) : Outcome (List Row × Reader) := do
  reader.ensureOpen
  .ok (reader.remainingRows, reader.pastRows)

def column (reader : Reader) (ordinal : Int) : Outcome Column := do
  Fault.lift (Position.item (← reader.requireTable).columns ordinal)

def ordinal (reader : Reader) (name : Text) : Outcome Nat := do
  Fault.lift ((← reader.requireTable).ordinal name)

def value (reader : Reader) (ordinal : Int) : Outcome Value := do
  Fault.lift (Position.item (← reader.values) ordinal)

def item (reader : Reader) : Key -> Outcome Value
  | .position index => reader.value index
  | .name name => do reader.value (← reader.ordinal name)

def isNull (reader : Reader) (ordinal : Int) : Outcome Bool := do
  .ok (← reader.value ordinal).isNull

/-- The refusal of a null cell. -/
def refuseNull (reader : Reader) (ordinal : Int) (target : Cast.Target) : Outcome α := do
  let column ← reader.column ordinal
  .error (.cause (.nullCell ordinal column.name target.name))

/-- A cell of the current row cast to a type. -/
def get (reader : Reader) (target : Cast.Target) (ordinal : Int) : Outcome Value := do
  let value ← reader.value ordinal
  if value.isNull then
    match target.ofNull? with
    | some replacement => Cast.convert target replacement
    | none => reader.refuseNull ordinal target
  else Cast.convert target value

end Reader
end Result
end SqlPipeline
