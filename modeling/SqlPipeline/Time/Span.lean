import SqlPipeline.Time.Clock
import SqlPipeline.Number.Binary64
import SqlPipeline.Number.Numeral

/-!
Time spans of up to 999999999 days either way, counted in microseconds, and their text: an optional
sign, optional days, hours, minutes, seconds, and optional ticks of a tenth of a microsecond.
-/

namespace SqlPipeline
namespace Time

def greatestDays : Nat := 999999999

structure Span where
  micros : Int
  least_le : -(86399999913600000000 : Int) ≤ micros
  lt_limit : micros < 86400000000000000000
  deriving DecidableEq, Repr

namespace Span

/-- A span of some microseconds, `none` outside of `-greatestDays` up to the last microsecond of
day `greatestDays`. -/
def ofMicros? (micros : Int) : Option Span :=
  if h : -(86399999913600000000 : Int) ≤ micros ∧ micros < 86400000000000000000 then
    some ⟨micros, h.1, h.2⟩
  else none

def fractionText (micro : Nat) : Text :=
  if micro = 0 then [] else '.' :: Text.padded 7 (micro * 10)

/-- The text of a span of so many microseconds, without a sign. -/
def magnitudeText (micros : Nat) : Text :=
  let days := micros / 86400000000
  (if days = 0 then [] else Text.decimal days ++ ['.'])
    ++ Text.padded 2 (micros / 3600000000 % 24) ++ ':' :: Text.padded 2 (micros / 60000000 % 60)
    ++ ':' :: Text.padded 2 (micros / 1000000 % 60) ++ fractionText (micros % 1000000)

def text (span : Span) : Text :=
  (if span.micros < 0 then ['-'] else []) ++ magnitudeText span.micros.natAbs

inductive ReadError where
  /-- The text is no span. -/
  | malformed
  /-- The days have too many digits to be read. -/
  | tooLong
  /-- The span is beyond the greatest one. -/
  | outOfRange
  deriving DecidableEq, Repr

/-- The fields of a span's text as they stand there. -/
structure Fields where
  negative : Bool
  days : Text
  hours : Text
  minutes : Text
  seconds : Text
  ticks : Text
  deriving DecidableEq, Repr

def digitRun (s : Text) : Text × Text :=
  (s.takeWhile Text.isDigit, s.dropWhile Text.isDigit)

/-- A colon and two digits. -/
def sixtieth? (s : Text) : Option (Text × Text) :=
  match s with
  | ':' :: rest =>
      if (rest.take 2).all Text.isDigit ∧ (rest.take 2).length = 2 then
        some (rest.take 2, rest.drop 2)
      else none
  | _ => none

def ticks? : Text -> Option Text
  | [] => some []
  | '.' :: ticks =>
      if ticks.all Text.isDigit ∧ 1 ≤ ticks.length ∧ ticks.length ≤ 7 then some ticks else none
  | _ => none

/-- Hours to ticks, the whole of the text. -/
def clock? (negative : Bool) (days s : Text) : Option Fields := do
  let (hours, s) := digitRun s
  if hours.length = 0 ∨ 2 < hours.length then none
  let (minutes, s) ← sixtieth? s
  let (seconds, s) ← sixtieth? s
  some ⟨negative, days, hours, minutes, seconds, ← ticks? s⟩

def fields? (s : Text) : Option Fields :=
  let (negative, s) := match s with
    | '-' :: rest => (true, rest)
    | s => (false, s)
  match digitRun s with
  | (d :: days, '.' :: rest) => clock? negative (d :: days) rest
  | _ => clock? negative [] s

def value (digits : Text) : Nat :=
  (Text.digits? digits).getD 0

def Fields.micros (fields : Fields) : Nat :=
  (((value fields.days * 24 + value fields.hours) * 60 + value fields.minutes) * 60
      + value fields.seconds) * 1000000
    + value (List.rightpad 7 '0' fields.ticks) / 10

def read (s : Text) : Except ReadError Span :=
  match fields? (Text.trim s) with
  | none => .error .malformed
  | some fields =>
      if Numeral.longest < fields.days.length then .error .tooLong
      else
        match ofMicros? fields.micros with
        | none => .error .outOfRange
        | some span =>
            if fields.negative then
              match ofMicros? (-span.micros) with
              | none => .error .outOfRange
              | some opposite => .ok opposite
            else .ok span

/-- The span from midnight to a time of day. -/
def ofClock (clock : Clock) : Option Span :=
  ofMicros? clock.micros

inductive ScaleError where
  | notANumber
  | outOfRange
  deriving DecidableEq, Repr

/-- The microseconds in `count` times `unit` microseconds. The fraction of `count` is scaled as a
binary number, and what is below a microsecond rounds to the nearest, ties to even. -/
def scaledMicros (unit : Nat) (negative : Bool) (rank : Nat) : Int :=
  let units := Binary64.units rank
  let whole := units / Binary64.unitsPerOne
  let fraction := units % Binary64.unitsPerOne
  let scaled := Binary64.units (Binary64.nearestRank (unit * fraction) 1)
  let total := whole * unit * Binary64.unitsPerOne + scaled
  let below := total / Binary64.unitsPerOne
  let rest := total % Binary64.unitsPerOne
  let up := Binary64.unitsPerOne < 2 * rest || (2 * rest = Binary64.unitsPerOne && below % 2 = 1)
  let micros := below + if up then 1 else 0
  if negative then -(micros : Int) else micros

def ofCount (unit : Nat) : Binary64 -> Except ScaleError Span
  | .nan => .error .notANumber
  | .infinity _ => .error .outOfRange
  | .finite negative rank =>
      match ofMicros? (scaledMicros unit negative rank) with
      | none => .error .outOfRange
      | some span => .ok span

end Span
end Time
end SqlPipeline
