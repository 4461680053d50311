import SqlPipeline.Time.Epoch
import SqlPipeline.Time.Reading
import SqlPipeline.Value.Display
import SqlPipeline.Value.Guid
import SqlPipeline.Value.Number

/-!
Casts of a value to a wanted type. A value that does not convert is refused; null stands for an
empty value of the types that have one and is refused by the others.
-/

namespace SqlPipeline
namespace Cast

inductive Target where
  | truth
  | byte
  | int16
  | int32
  | int64
  | real
  | decimal
  | text
  | char
  | uuid
  | stamp
  | moment
  | span
  | bytes
  deriving DecidableEq, Repr

def integerName (bits : Nat) : Text :=
  "a " ++ Text.decimal bits ++ "-bit integer"

/-- What a null cell is said not to be. A byte is read as a 16-bit integer first. -/
def Target.name : Target -> Text
  | truth => "bool"
  | byte => integerName 16
  | int16 => integerName 16
  | int32 => integerName 32
  | int64 => integerName 64
  | real => "float"
  | decimal => "Decimal"
  | text => "str"
  | char => "a character"
  | uuid => "UUID"
  | stamp => "datetime"
  | moment => "datetime"
  | span => "timedelta"
  | bytes => "bytes"

/-- What null stands for. -/
def Target.ofNull? : Target -> Option Value
  | text => some (.text [])
  | char => some (.text [])
  | uuid => some (.uuid Uuid.zero)
  | bytes => some (.binary .fixed [])
  | _ => none

def inspected (value : Value) : Outcome Text :=
  Fault.lift (orTooLong value.inspect?)

/-- Refuses a value, showing it. -/
def refuse (value : Value) (target : Text) : Outcome α := do
  let shown ← inspected value
  .error (.cause (.notConvertible value.typeName shown target))

/-- The integer that a cell holds, if it holds one. -/
def whole? : Value -> Option Int
  | .bool b => some (if b then 1 else 0)
  | .int n => some n
  | .real x => if x.isWhole then x.truncate? else none
  | .text s => Numeral.integer? (Text.trim s)
  | _ => none

/-- Whether a number fits into some bits, one of which is its sign. -/
def fits (bits : Nat) (n : Int) : Bool :=
  -(2 ^ (bits - 1)) ≤ n && n < 2 ^ (bits - 1)

def integer (bits : Nat) (value : Value) : Outcome Int :=
  match whole? value with
  | none => refuse value (integerName bits)
  | some n => if fits bits n then .ok n else refuse value (integerName bits)

def byte (value : Value) : Outcome Int := do
  let n ← integer 16 value
  if 0 ≤ n ∧ n < 256 then .ok n else refuse (.int n) "a byte"

def orRefuse (value : Value) (target : Text) : Except NumberError α -> Outcome α
  | .ok x => .ok x
  | .error .outOfRange => .error (.fault .outOfRange)
  | .error _ => refuse value target

def isBytes : Value -> Bool
  | .binary .window _ => false
  | .binary _ _ => true
  | _ => false

def real (value : Value) : Outcome Binary64 :=
  if isBytes value then refuse value "float" else orRefuse value "float" value.realNumber

def isDecimalSource : Value -> Bool
  | .int _ => true
  | .real _ => true
  | .decimal _ => true
  | .text _ => true
  | _ => false

/-- The decimal number that the text of a value spells. -/
def decimal (value : Value) : Outcome Decimal := do
  if isDecimalSource value then
    match Decimal.ofText? (← Fault.lift (orTooLong value.display?)) with
    | some d => .ok d
    | none => refuse value "Decimal"
  else refuse value "Decimal"

def storedText (moment : Time.Moment) : Outcome Text :=
  match moment.utcStamp? with
  | some stamp => .ok stamp.text
  | none => .error (.fault .outOfRange)

def text : Value -> Outcome Text
  | .null => .ok []
  | .moment moment => storedText moment
  | .binary .fixed bytes => .ok (Utf8.decodeReplacing bytes)
  | .binary .growable bytes => .ok (Utf8.decodeReplacing bytes)
  | value => Fault.lift (orTooLong value.display?)

/-- The first character of the text of a value. -/
def char (value : Value) : Outcome Char := do
  match ← text value with
  | c :: _ => .ok c
  | [] => refuse (.text []) "a character"

def uuid (value : Value) : Outcome Uuid := do
  match value.toUuid with
  | .ok found => .ok found
  | .error fault =>
      if fault.isContent then .error (.cause (.guidUnreadable (← inspected value)))
      else .error (.fault fault)

def ofRead (value : Value) : Except Time.ReadError α -> Outcome α
  | .ok x => .ok x
  | .error .malformed => refuse value "datetime"
  | .error .outOfRange => .error (.fault .outOfRange)

def ofSeconds (seconds : Int) : Outcome Time.Stamp :=
  match Time.Epoch.ofSeconds? seconds with
  | some stamp => .ok stamp
  | none => .error (.fault .outOfRange)

def ofJulianDay (day : Binary64) : Outcome Time.Stamp :=
  match Time.Epoch.ofJulianDay day with
  | .ok stamp => .ok stamp
  | .error .notANumber => .error (.fault .badContent)
  | .error .outOfRange => .error (.fault .outOfRange)

/-- A stamp from text, from Unix seconds or from a Julian day. -/
def stamp (value : Value) : Outcome Time.Stamp :=
  match value with
  | .moment moment => .ok moment.stamp
  | .text s => ofRead value (Time.Stamp.read s)
  | .int seconds => ofSeconds seconds
  | .real day => ofJulianDay day
  | _ => refuse value "datetime"

/-- A moment with an offset, which is universal time unless another one is given. -/
def moment (value : Value) : Outcome Time.Moment :=
  match value with
  | .moment found => .ok found.orUtc
  | .text s => ofRead value (Time.Moment.read s)
  | .int seconds => (ofSeconds seconds).map .utc
  | _ => refuse value "datetime"

def span (value : Value) : Outcome Time.Span :=
  match value with
  | .span found => .ok found
  | .text s =>
      match Time.Span.read s with
      | .ok found => .ok found
      | .error .outOfRange => .error (.fault .outOfRange)
      | .error _ => refuse value "timedelta"
  | _ => refuse value "timedelta"

def bytes (value : Value) : Outcome Bytes :=
  match value with
  | .null => .ok []
  | .binary .fixed found => .ok found
  | .binary .growable found => .ok found
  | _ => refuse value "bytes"

def convert (target : Target) (value : Value) : Outcome Value :=
  match target with
  | .truth => .ok (.bool value.truth)
  | .byte => (byte value).map .int
  | .int16 => (integer 16 value).map .int
  | .int32 => (integer 32 value).map .int
  | .int64 => (integer 64 value).map .int
  | .real => (real value).map .real
  | .decimal => (decimal value).map .decimal
  | .text => (text value).map .text
  | .char => (char value).map fun c => .text [c]
  | .uuid => (uuid value).map .uuid
  | .stamp => (stamp value).map fun found => .moment (.naive found)
  | .moment => (moment value).map .moment
  | .span => (span value).map .span
  | .bytes => (bytes value).map (.binary .fixed)

end Cast
end SqlPipeline
