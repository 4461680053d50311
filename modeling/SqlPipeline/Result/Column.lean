import SqlPipeline.Text.Blank
import SqlPipeline.Text.LetterCase
import SqlPipeline.Value.Basic

/-!
Columns of a result: a name, a declared type and the type of cell that it leads to. The names of
one table differ from each other in every letter case, a number being put behind a name that is
taken.
-/

namespace SqlPipeline
namespace Result

inductive CellType where
  | integer
  | real
  | text
  | blob
  | stamp
  | other (name : Text)
  deriving DecidableEq, Repr

namespace CellType

def name : CellType -> Text
  | integer => "int"
  | real => "float"
  | text => "str"
  | blob => "bytes"
  | stamp => "datetime"
  | other name => name

def ofName (name : Text) : CellType :=
  ([integer, real, text, blob, stamp].find? fun type => type.name = name).getD (other name)

/-- The type that a declared type leads to; every type that speaks of a date or a time is read as a
stamp, and unknown types as text. -/
def ofDeclared (declared? : Option Text) : CellType :=
  let name := Text.upper (Text.trim (declared?.getD []))
  if name = "INTEGER".toList then integer
  else if name = "REAL".toList then real
  else if name = "TEXT".toList then text
  else if name = "BLOB".toList then blob
  else if Text.contains "DATE" name || Text.contains "TIME" name then stamp
  else text

end CellType

structure Column where
  name : Text
  type : CellType
  declared? : Option Text
  deriving DecidableEq, Repr

namespace Column

def ofDeclared (name : Text) (declared? : Option Text) : Column :=
  ⟨name, .ofDeclared declared?, declared?⟩

/-- The declared type, or the name of the cell type when none was declared. -/
def typeName (column : Column) : Text :=
  match column.declared? with
  | some (c :: rest) => c :: rest
  | _ => column.type.name

def suffixed (base : Text) (number : Nat) : Text :=
  base ++ '_' :: Text.decimal number

def isTaken (taken : List Text) (name : Text) : Bool :=
  taken.contains (Text.lower name)

/-- The first of the numbered names from `number` on that is free; among as many candidates as
there are taken names and one more, one is free. -/
def freeFrom (base : Text) (taken : List Text) : Nat -> Nat -> Text
  | 0, number => suffixed base number
  | fuel + 1, number =>
      if isTaken taken (suffixed base number) then freeFrom base taken fuel (number + 1)
      else suffixed base number

/-- A name that differs in lower case from all those taken. -/
def free (base : Text) (taken : List Text) : Text :=
  if isTaken taken base then freeFrom base taken taken.length 1 else base

/-- The name a column starts from, which for a column without one tells its position. -/
def baseName (position : Nat) : Option Text -> Text
  | some (c :: rest) => c :: rest
  | _ => "Column" ++ Text.decimal position

/-- Distinct names for the columns from `position` on, `taken` holding the names before them in
lower case. -/
def distinctFrom (position : Nat) (taken : List Text) :
    List (Option Text × Option Text) -> List Column
  | [] => []
  | (name?, declared?) :: rest =>
      let name := free (baseName position name?) taken
      ofDeclared name declared? :: distinctFrom (position + 1) (Text.lower name :: taken) rest

def distinct (columns : List (Option Text × Option Text)) : List Column :=
  distinctFrom 0 [] columns

end Column
end Result
end SqlPipeline
