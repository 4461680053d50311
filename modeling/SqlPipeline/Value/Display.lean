import SqlPipeline.Text.Quoted
import SqlPipeline.Value.Basic

/-!
The text of a value. A value is displayed plainly, or inspected in a form that names its type and
quotes its text. Both fail on an integer that is too long to be written.
-/

namespace SqlPipeline

/-- Numbers are written positionally from `0.0001` to below `10 ^ 16`; an exponent has at least two
digits. -/
def realLayout : Binary64.Layout := ⟨-4, 2, "nan", "inf", "-inf"⟩

def realText (x : Binary64) : Text :=
  realLayout.text x

namespace Time

def spanFields (days : Int) (seconds micros : Nat) : List Text :=
  (if days = 0 then [] else ["days=" ++ Text.ofInt days])
    ++ (if seconds = 0 then [] else ["seconds=" ++ Text.decimal seconds])
    ++ (if micros = 0 then [] else ["microseconds=" ++ Text.decimal micros])

def inspectMicros (micros : Int) : Text :=
  let days := micros.fdiv 86400000000
  let rest := (micros.fmod 86400000000).toNat
  let fields := spanFields days (rest / 1000000) (rest % 1000000)
  "datetime.timedelta(" ++ (if fields.isEmpty then ['0'] else List.intercalate ", " fields) ++ ")"

def inspectOffset (offset : Offset) : Text :=
  if offset = 0 then "datetime.timezone.utc"
  else "datetime.timezone(" ++ inspectMicros offset ++ ")"

def inspectZone : Option Offset -> Text
  | none => []
  | some offset => ", tzinfo=" ++ inspectOffset offset

def dateFields (date : Date) : List Text :=
  [Text.decimal date.year, Text.decimal date.month, Text.decimal date.day]

/-- Hours and minutes, then seconds and microseconds unless they and all after them are zero. -/
def clockFields (clock : Clock) : List Text :=
  [Text.decimal clock.hour, Text.decimal clock.minute]
    ++ (if clock.second.val = 0 ∧ clock.micro.val = 0 then [] else [Text.decimal clock.second])
    ++ (if clock.micro.val = 0 then [] else [Text.decimal clock.micro])

def inspectDate (date : Date) : Text :=
  "datetime.date(" ++ List.intercalate ", " (dateFields date) ++ ")"

def inspectClock (clock : Clock) (offset? : Option Offset) : Text :=
  "datetime.time(" ++ List.intercalate ", " (clockFields clock) ++ inspectZone offset? ++ ")"

def inspectMoment (moment : Moment) : Text :=
  "datetime.datetime("
    ++ List.intercalate ", " (dateFields moment.stamp.date ++ clockFields moment.stamp.clock)
    ++ inspectZone moment.offset? ++ ")"

def zoneText : Option Offset -> Text
  | none => []
  | some offset => offset.text

def clockText (clock : Clock) (offset? : Option Offset) : Text :=
  clock.text ++ zoneText offset?

def momentText (moment : Moment) : Text :=
  moment.stamp.date.text ++ ' ' :: clockText moment.stamp.clock moment.offset?

def daysText (days : Int) : Text :=
  if days = 0 then []
  else Text.ofInt days ++ (if days.natAbs = 1 then " day, " else " days, ").toList

/-- Days, counted down to the day before, and the time since then. -/
def spanText (span : Span) : Text :=
  let rest := (span.micros.fmod 86400000000).toNat
  daysText (span.micros.fdiv 86400000000) ++ Text.decimal (rest / 3600000000) ++ ':' ::
    Text.padded 2 (rest / 60000000 % 60) ++ ':' :: Text.padded 2 (rest / 1000000 % 60)
    ++ Clock.fractionText (rest % 1000000)

end Time

namespace Value

def inspectBinary : Holder -> Bytes -> Text
  | .fixed, bytes => 'b' :: Text.quotedBytes bytes
  | .growable, bytes => "bytearray(b" ++ Text.guardedBytes bytes ++ ")"
  | .window, _ => "<memory>"

mutual

def inspect? : Value -> Option Text
  | null => some "None"
  | bool b => some (if b then "True" else "False").toList
  | int n => Numeral.integerText? n
  | real x => some (realText x)
  | decimal d => some ("Decimal('" ++ d.text ++ "')")
  | text s => some (Text.quoted s)
  | binary holder bytes => some (inspectBinary holder bytes)
  | moment m => some (Time.inspectMoment m)
  | date d => some (Time.inspectDate d)
  | clock c offset? => some (Time.inspectClock c offset?)
  | span s => some (Time.inspectMicros s.micros)
  | uuid u => some ("UUID('" ++ u.text ++ "')")
  | list items => (inspectItems? items).map fun texts => '[' :: List.intercalate ", " texts ++ [']']
  | dict entries =>
      (inspectEntries? entries).map fun texts => '\x7b' :: List.intercalate ", " texts ++ ['\x7d']

def inspectItems? : List Value -> Option (List Text)
  | [] => some []
  | item :: rest => do
      let text ← inspect? item
      let texts ← inspectItems? rest
      some (text :: texts)

def inspectEntries? : List (Text × Value) -> Option (List Text)
  | [] => some []
  | (key, value) :: rest => do
      let text ← inspect? value
      let texts ← inspectEntries? rest
      some ((Text.quoted key ++ ": " ++ text) :: texts)

end

def display? : Value -> Option Text
  | text s => some s
  | decimal d => some d.text
  | moment m => some (Time.momentText m)
  | date d => some d.text
  | clock c offset? => some (Time.clockText c offset?)
  | span s => some (Time.spanText s)
  | uuid u => some u.text
  | value => inspect? value

end Value
end SqlPipeline
