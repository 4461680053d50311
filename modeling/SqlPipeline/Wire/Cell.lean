import SqlPipeline.Bytes.Base64
import SqlPipeline.Members
import SqlPipeline.Time.Reading
import SqlPipeline.Value.Display
import SqlPipeline.Value.Guid
import SqlPipeline.Value.Number

/-!
Cells as they are received: an object with a type and a value. Decoding is permissive, so that what
cannot be read as its type becomes null, except for blobs, which must be valid Base64.
-/

namespace SqlPipeline
namespace Wire

/-- What the reader of a cell wants it to be. -/
inductive Expected where
  | anything
  | truth
  | uuid
  | stamp
  deriving DecidableEq, Repr

def orNull : Option Value -> Value
  | some value => value
  | none => .null

def decodeInteger : Value -> Value
  | .bool b => .int (if b then 1 else 0)
  | .int n => .int n
  | .real x => if x.isWhole then orNull (x.truncate?.map .int) else .null
  | value => orNull (do some (.int (← Numeral.integer? (Text.trim (← value.display?)))))

def decodeReal (raw : Value) : Except Fault Value :=
  match raw.realNumber with
  | .ok x => .ok (.real x)
  | .error .outOfRange => .error .outOfRange
  | .error _ => .ok .null

def decodeBase64 (s : Text) : Except Fault Value :=
  match Base64.decode? s with
  | some bytes => .ok (.binary .fixed bytes)
  | none => .error (.badBlob "the text is not valid Base64")

def decodeBlob : Value -> Except Fault Value
  | .text s => if s.all Text.isAscii then decodeBase64 s else .error .badContent
  | .binary _ bytes => decodeBase64 (bytes.map fun byte => Char.ofNat byte.val)
  | _ => .error (.badBlob "the value is not text")

def decodeText (raw : Value) : Except Fault Value := do
  .ok (.text (← orTooLong raw.display?))

def isAbsent : Value -> Bool
  | .null => true
  | .text s => s.isEmpty
  | _ => false

/-- The value of a cell whose type is `tag` in any letter case. -/
def decodeAs (tag : Text) (raw : Value) : Except Fault Value :=
  let kind := Text.lower tag
  if kind = "null".toList ∨ isAbsent raw then .ok .null
  else if kind = "integer".toList then .ok (decodeInteger raw)
  else if kind = "float".toList then decodeReal raw
  else if kind = "blob".toList then decodeBlob raw
  else if kind = "text".toList then decodeText raw
  else .ok raw

def expectUuid (value : Value) : Except Fault Value :=
  match value.toUuid with
  | .ok uuid => .ok (.uuid uuid)
  | .error fault => if fault.isContent then .ok .null else .error fault

def expectStamp : Value -> Except Fault Value
  | .text s =>
      match Time.Stamp.read s with
      | .ok stamp => .ok (.moment (.naive stamp))
      | .error .malformed => .ok .null
      | .error .outOfRange => .error .outOfRange
  | _ => .ok .null

def expect (expected : Expected) (value : Value) : Except Fault Value :=
  if value.isNull then .ok .null
  else
    match expected with
    | .anything => .ok value
    | .truth => .ok (.bool value.truth)
    | .uuid => expectUuid value
    | .stamp => expectStamp value

def decode (expected : Expected) (tag : Text) (raw : Value) : Except Fault Value := do
  expect expected (← decodeAs tag raw)

/-- The type of a cell. A missing or empty one reads as no type, and so do bytes, which name none
whatever they spell. -/
def cellTag (type : Value) : Except Fault Text :=
  match type with
  | .text s => .ok s
  | .binary .fixed _ => .ok []
  | .binary .growable _ => .ok []
  | type => if type.holds then .error .noMember else .ok []

def member (key : Text) (entries : List (Text × Value)) : Value :=
  (Members.lookup key entries).getD .null

/-- The payload of a cell: its value, for a blob also under its own name. -/
def payload (entries : List (Text × Value)) : Value :=
  match member "value" entries, member "type" entries with
  | .null, .text tag => if tag = "blob".toList then member "base64" entries else .null
  | value, _ => value

def decodeCell (expected : Expected) : Value -> Except Fault Value
  | .dict entries => do
      decode expected (← cellTag (member "type" entries)) (payload entries)
  | _ => .ok .null

end Wire
end SqlPipeline
