import SqlPipeline.Result.Reader

/-!
Cursors: a reader over tables, or only a count of rows.
-/

namespace SqlPipeline
namespace Facade

open Result (Column Reader Row)

structure Cursor where
  reader? : Option Reader
  rowCount : Int

namespace Cursor

def ofReader (reader : Reader) : Cursor :=
  ⟨some reader, reader.recordsAffected⟩

def ofCount (count : Int) : Cursor :=
  ⟨none, count⟩

def columns (cursor : Cursor) : List Column :=
  match cursor.reader? with
  | some reader => reader.columns
  | none => []

/-- Steps the reader of a cursor; one without a reader stays as it is. -/
def step (cursor : Cursor) (default : α) (move : Reader -> Outcome (α × Reader)) :
    Outcome (α × Cursor) :=
  match cursor.reader? with
  | none => .ok (default, cursor)
  | some reader => (move reader).map fun (x, reader) => (x, { cursor with reader? := some reader })

def fetchOne (cursor : Cursor) : Outcome (Option Row × Cursor) :=
  cursor.step none Reader.nextRow

def fetchAll (cursor : Cursor) : Outcome (List Row × Cursor) :=
  cursor.step [] Reader.rows

def nextSet (cursor : Cursor) : Outcome (Bool × Cursor) :=
  cursor.step false Reader.nextResult

end Cursor
end Facade
end SqlPipeline
