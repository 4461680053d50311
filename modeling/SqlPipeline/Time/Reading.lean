import SqlPipeline.Time.Layout
import SqlPipeline.Time.Iso

/-!
Reading moments from text. A naive stamp is read by the stored layouts first and then by the ISO
forms, shifted to universal time; a moment with an offset is read the other way round.
-/

namespace SqlPipeline
namespace Time

inductive ReadError where
  /-- No form matches. -/
  | malformed
  /-- The shift to universal time leaves the calendar. -/
  | outOfRange
  deriving DecidableEq, Repr

def Stamp.read (s : Text) : Except ReadError Stamp :=
  let s := Text.trim s
  match Layout.stamp? s with
  | some stamp => .ok stamp
  | none =>
      match Iso.moment? s with
      | none => .error .malformed
      | some moment =>
          match moment.utcStamp? with
          | none => .error .outOfRange
          | some stamp => .ok stamp

def Moment.read (s : Text) : Except ReadError Moment :=
  match Iso.moment? (Text.trim s) with
  | some moment => .ok moment.orUtc
  | none => (Stamp.read (Text.trim s)).map Moment.utc

end Time
end SqlPipeline
