import SqlPipeline.Time.Stamp
import SqlPipeline.Time.Span

/-!
Stamps counted from an epoch: Unix seconds from the start of 1970, and Julian days, whose number at
that instant is 2440587.5.
-/

namespace SqlPipeline
namespace Time
namespace Epoch

/-- The start of 1970 in microseconds since the start of day 0. -/
def micros : Int := 62135683200000000

def julianDay : Binary64 := Binary64.ofRatio false 4881175 2

def after? (span : Span) : Option Stamp :=
  Stamp.ofMicros? (micros + span.micros)

def afterSpan : Except Span.ScaleError Span -> Except Span.ScaleError Stamp
  | .error e => .error e
  | .ok span =>
      match after? span with
      | none => .error .outOfRange
      | some stamp => .ok stamp

def ofSeconds? (seconds : Int) : Option Stamp := do
  after? (← Span.ofMicros? (seconds * 1000000))

def ofReal (seconds : Binary64) : Except Span.ScaleError Stamp :=
  afterSpan (Span.ofCount microsPerSecond seconds)

def ofJulianDay (day : Binary64) : Except Span.ScaleError Stamp :=
  afterSpan (Span.ofCount microsPerDay (day.sub julianDay))

end Epoch
end Time
end SqlPipeline
