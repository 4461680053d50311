import SqlPipeline.Text.Basic

/-!
Times of day to the microsecond, and offsets from universal time, which are counted in microseconds
and stay below a day.
-/

namespace SqlPipeline
namespace Time

def microsPerSecond : Nat := 1000000

def microsPerDay : Nat := 86400 * microsPerSecond

structure Clock where
  hour : Fin 24
  minute : Fin 60
  second : Fin 60
  micro : Fin 1000000
  deriving DecidableEq, Repr

namespace Clock

def midnight : Clock := ⟨0, 0, 0, 0⟩

def of? (hour minute second micro : Nat) : Option Clock :=
  if h : hour < 24 ∧ minute < 60 ∧ second < 60 ∧ micro < 1000000 then
    some ⟨⟨hour, h.1⟩, ⟨minute, h.2.1⟩, ⟨second, h.2.2.1⟩, ⟨micro, h.2.2.2⟩⟩
  else none

/-- Microseconds since midnight. -/
def micros (clock : Clock) : Nat :=
  ((clock.hour.val * 60 + clock.minute.val) * 60 + clock.second.val) * 1000000 + clock.micro.val

/-- The time of day some microseconds after midnight, whole days left out. -/
def ofMicros (n : Nat) : Clock :=
  ⟨Fin.ofNat 24 (n / 3600000000), Fin.ofNat 60 (n / 60000000), Fin.ofNat 60 (n / 1000000),
    Fin.ofNat 1000000 n⟩

def fractionText (micro : Nat) : Text :=
  if micro = 0 then [] else '.' :: Text.padded 6 micro

/-- Hours, minutes and seconds, and the microseconds unless there are none. -/
def text (clock : Clock) : Text :=
  Text.padded 2 clock.hour ++ ':' :: Text.padded 2 clock.minute ++ ':' :: Text.padded 2 clock.second
    ++ fractionText clock.micro

end Clock

/-- Microseconds ahead of universal time. -/
abbrev Offset := Int

namespace Offset

def isValid (offset : Offset) : Bool :=
  offset.natAbs < microsPerDay

def text (offset : Offset) : Text :=
  let size := offset.natAbs
  let seconds := size / 1000000 % 60
  let micro := size % 1000000
  (if offset < 0 then '-' else '+') :: Text.padded 2 (size / 3600000000) ++ ':' ::
    Text.padded 2 (size / 60000000 % 60)
    ++ (if seconds = 0 ∧ micro = 0 then [] else ':' :: Text.padded 2 seconds)
    ++ Clock.fractionText micro

end Offset
end Time
end SqlPipeline
