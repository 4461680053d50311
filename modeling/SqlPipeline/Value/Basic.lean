import SqlPipeline.Number.Decimal
import SqlPipeline.Time.Span
import SqlPipeline.Time.Stamp
import SqlPipeline.Uuid

/-!
The values that are bound to parameters and read from cells.
-/

namespace SqlPipeline

/-- How a holder of bytes lets them be used: fixed, changeable, or a window on other bytes. -/
inductive Holder where
  | fixed
  | growable
  | window
  deriving DecidableEq, Repr

inductive Value where
  | null
  | bool (b : Bool)
  | int (n : Int)
  | real (x : Binary64)
  | decimal (d : Decimal)
  | text (s : Text)
  | binary (holder : Holder) (bytes : Bytes)
  | moment (moment : Time.Moment)
  | date (date : Time.Date)
  | clock (clock : Time.Clock) (offset? : Option Time.Offset)
  | span (span : Time.Span)
  | uuid (uuid : Uuid)
  | list (items : List Value)
  | dict (entries : List (Text × Value))

namespace Value

instance : Inhabited Value := ⟨null⟩

def isNull : Value -> Bool
  | null => true
  | _ => false

theorem null_or_present (value : Value) : value = null ∨ value.isNull = false := by
  cases value with
  | null => exact .inl rfl
  | _ => exact .inr rfl

def typeName : Value -> Text
  | null => "NoneType"
  | bool _ => "bool"
  | int _ => "int"
  | real _ => "float"
  | decimal _ => "Decimal"
  | text _ => "str"
  | binary .fixed _ => "bytes"
  | binary .growable _ => "bytearray"
  | binary .window _ => "memoryview"
  | moment _ => "datetime"
  | date _ => "date"
  | clock _ _ => "time"
  | span _ => "timedelta"
  | uuid _ => "UUID"
  | list _ => "list"
  | dict _ => "dict"

/-- The number of characters or bytes of a value that is made of them; a window has no size. -/
def size : Value -> Nat
  | text s => s.length
  | binary .window _ => 0
  | binary _ bytes => bytes.length
  | _ => 0

def isSized : Value -> Bool
  | text _ => true
  | binary .window _ => false
  | binary _ _ => true
  | _ => false

/-- Whether a value counts as true: zero, false, null and what is empty do not. -/
def holds : Value -> Bool
  | null => false
  | bool b => b
  | int n => n ≠ 0
  | real x => !x.isZero
  | decimal d => !d.isZero
  | text s => !s.isEmpty
  | binary _ bytes => !bytes.isEmpty
  | moment _ => true
  | date _ => true
  | clock _ _ => true
  | .span s => s.micros ≠ 0
  | uuid _ => true
  | list items => !items.isEmpty
  | dict entries => !entries.isEmpty

end Value
end SqlPipeline
