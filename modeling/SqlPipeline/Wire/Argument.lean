import SqlPipeline.Bytes.Base64
import SqlPipeline.DbType
import SqlPipeline.Failure
import SqlPipeline.Time.Reading
import SqlPipeline.Value.Display
import SqlPipeline.Value.Number

/-!
Arguments as they are sent: a tagged content with an optional name. A value is encoded after its
declared type; a value that cannot represent that type is refused.
-/

namespace SqlPipeline
namespace Wire

inductive Content where
  | null
  | integer (digits : Text)
  | real (x : Binary64)
  | text (s : Text)
  | blob (base64 : Text)
  deriving DecidableEq, Repr

def Content.tag : Content -> Text
  | null => "null"
  | integer _ => "integer"
  | real _ => "float"
  | text _ => "text"
  | blob _ => "blob"

structure Argument where
  name? : Option Text
  content : Content
  deriving DecidableEq, Repr

def notCastable (value : Value) (target : Text) : Outcome α :=
  .error (.cause (.notCastable value.typeName target))

/-- A failure to denote a number: too great a number is a fault, all else a refused cast. -/
def refuseNumber (value : Value) (target : Text) : NumberError -> Outcome α
  | .outOfRange => .error (.fault .outOfRange)
  | _ => notCastable value target

def encodeInteger (value : Value) : Outcome Content :=
  match value.integer with
  | .error e => refuseNumber value "int" e
  | .ok n =>
      match Numeral.integerText? n with
      | some digits => .ok (.integer digits)
      | none => notCastable value "int"

def encodeReal (value : Value) : Outcome Content :=
  match value.realNumber with
  | .error e => refuseNumber value "float" e
  | .ok x => .ok (.real x)

def encodeText (value : Value) : Outcome Content := do
  .ok (.text (← Fault.lift (orTooLong value.display?)))

/-- A stored form, which a moment that leaves the calendar does not have. -/
def stored : Option Text -> Outcome Content
  | some s => .ok (.text s)
  | none => .error (.fault .outOfRange)

def encodeStamp : Value -> Outcome Content
  | .text s =>
      match Time.Stamp.read s with
      | .ok stamp => .ok (.text stamp.text)
      | .error .malformed => .error (.cause (.stampUnreadable s))
      | .error .outOfRange => .error (.fault .outOfRange)
  | .moment moment => stored moment.text?
  | .date date => .ok (.text (Time.Stamp.atMidnight date).text)
  | value => notCastable value "datetime"

def encodeMoment : Value -> Outcome Content
  | .text s =>
      match Time.Moment.read s with
      | .ok moment => stored moment.offsetText?
      | .error .malformed => .error (.cause (.offsetStampUnreadable s))
      | .error .outOfRange => .error (.fault .outOfRange)
  | .moment moment => stored moment.offsetText?
  | value => notCastable value "datetime"

def encodeSpan : Value -> Outcome Content
  | .text s =>
      match Time.Span.read s with
      | .ok span => .ok (.text span.text)
      | .error .outOfRange => .error (.fault .outOfRange)
      | .error _ => notCastable (.text s) "timedelta"
  | .span span => .ok (.text span.text)
  | .clock clock offset? => .ok (.text (Time.clockText clock offset?))
  | value => notCastable value "timedelta"

/-- The text of an identifier; other values are sent as their own text. -/
def encodeGuid : Value -> Outcome Content
  | .binary .window bytes => encodeText (.binary .window bytes)
  | .binary holder bytes =>
      match Uuid.ofBytes? bytes with
      | some uuid => .ok (.text uuid.text)
      | none => encodeText (.binary holder bytes)
  | value => encodeText value

def encodeBlob : Value -> Outcome Content
  | .binary _ bytes => .ok (.blob (Base64.encode bytes))
  | value => notCastable value "bytes"

def encodeContent (type : DbType) (value : Value) : Outcome Content :=
  if value.isNull then .ok .null
  else
    match type with
    | .boolean => .ok (.integer (if value.truth then ['1'] else ['0']))
    | .int16 => encodeInteger value
    | .int32 => encodeInteger value
    | .int64 => encodeInteger value
    | .double => encodeReal value
    | .decimal => encodeReal value
    | .datetime => encodeStamp value
    | .datetimeOffset => encodeMoment value
    | .time => encodeSpan value
    | .guid => encodeGuid value
    | .binary => encodeBlob value
    | _ => encodeText value

def encode (name? : Option Text) (type : DbType) (value : Value) : Outcome Argument := do
  .ok ⟨name?, ← encodeContent type value⟩

end Wire
end SqlPipeline
