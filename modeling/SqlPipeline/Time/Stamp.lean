import SqlPipeline.Time.Date
import SqlPipeline.Time.Clock

/-!
A stamp is a date with a time of day. A moment may in addition carry an offset; without one it is
naive. Stamps are stored as text with milliseconds, and moments with an offset are first shifted to
universal time, so that the offset itself is lost.
-/

namespace SqlPipeline
namespace Time

structure Stamp where
  date : Date
  clock : Clock
  deriving DecidableEq, Repr

namespace Stamp

/-- Microseconds since the start of day 0. -/
def micros (stamp : Stamp) : Nat :=
  stamp.date.ordinal * microsPerDay + stamp.clock.micros

def ofMicros? (n : Int) : Option Stamp :=
  if n < 0 then none
  else (Date.ofOrdinal? (n.toNat / microsPerDay)).map fun date =>
    ⟨date, Clock.ofMicros (n.toNat % microsPerDay)⟩

def shift? (stamp : Stamp) (micros : Int) : Option Stamp :=
  ofMicros? (stamp.micros + micros)

def atMidnight (date : Date) : Stamp :=
  ⟨date, Clock.midnight⟩

/-- The stored form: date and time of day to the millisecond, what is finer cut off. -/
def text (stamp : Stamp) : Text :=
  stamp.date.text ++ ' ' :: Text.padded 2 stamp.clock.hour ++ ':' ::
    Text.padded 2 stamp.clock.minute ++ ':' :: Text.padded 2 stamp.clock.second ++ '.' ::
    Text.padded 3 (stamp.clock.micro / 1000)

end Stamp

structure Moment where
  stamp : Stamp
  offset? : Option Offset
  deriving DecidableEq, Repr

namespace Moment

def naive (stamp : Stamp) : Moment := ⟨stamp, none⟩

def utc (stamp : Stamp) : Moment := ⟨stamp, some 0⟩

/-- Takes a naive moment as universal time. -/
def orUtc (moment : Moment) : Moment :=
  match moment.offset? with
  | some _ => moment
  | none => utc moment.stamp

/-- The stamp in universal time, `none` when it leaves the calendar. -/
def utcStamp? (moment : Moment) : Option Stamp :=
  match moment.offset? with
  | none => some moment.stamp
  | some offset => if offset = 0 then some moment.stamp else moment.stamp.shift? (-offset)

/-- The stored form of a moment, `none` when it leaves the calendar. -/
def text? (moment : Moment) : Option Text :=
  moment.utcStamp?.map Stamp.text

/-- The stored form of a moment that is first given an offset, if it has none. -/
def offsetText? (moment : Moment) : Option Text :=
  moment.orUtc.text?

end Moment
end Time
end SqlPipeline
