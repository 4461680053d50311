import SqlPipeline.Text.Basic

/-!
Dates of the proleptic Gregorian calendar in the years 1 to 9999. The ordinal of a date counts
days, the first of January of the year 1 being day 1.
-/

namespace SqlPipeline
namespace Time

def isLeap (year : Nat) : Bool :=
  year % 4 = 0 && (year % 100 ≠ 0 || year % 400 = 0)

def daysInYear (year : Nat) : Nat :=
  if isLeap year then 366 else 365

def daysInMonth (year month : Nat) : Nat :=
  if month = 2 then (if isLeap year then 29 else 28)
  else if month = 4 ∨ month = 6 ∨ month = 9 ∨ month = 11 then 30
  else 31

structure Date where
  year : Nat
  month : Nat
  day : Nat
  year_pos : 1 ≤ year
  year_le : year ≤ 9999
  month_pos : 1 ≤ month
  month_le : month ≤ 12
  day_pos : 1 ≤ day
  day_le : day ≤ daysInMonth year month
  deriving DecidableEq, Repr

namespace Date

def of? (year month day : Nat) : Option Date :=
  if h : (1 ≤ year ∧ year ≤ 9999) ∧ (1 ≤ month ∧ month ≤ 12)
      ∧ 1 ≤ day ∧ day ≤ daysInMonth year month
  then some ⟨year, month, day, h.1.1, h.1.2, h.2.1.1, h.2.1.2, h.2.2.1, h.2.2.2⟩
  else none

def daysBeforeYear (year : Nat) : Nat :=
  let past := year - 1
  past * 365 + past / 4 - past / 100 + past / 400

def daysBeforeMonth (year month : Nat) : Nat :=
  (List.range (month - 1)).foldl (fun days past => days + daysInMonth year (past + 1)) 0

def ordinal (date : Date) : Nat :=
  daysBeforeYear date.year + daysBeforeMonth date.year date.month + date.day

/-- Walks from the first day of a year to the year that holds the day `rest` days later. -/
def yearOf : Nat -> Nat -> Nat -> Nat × Nat
  | 0, year, rest => (year, rest)
  | fuel + 1, year, rest =>
      if rest < daysInYear year then (year, rest)
      else yearOf fuel (year + 1) (rest - daysInYear year)

def monthOf (year : Nat) : Nat -> Nat -> Nat -> Nat × Nat
  | 0, month, rest => (month, rest)
  | fuel + 1, month, rest =>
      if rest < daysInMonth year month then (month, rest)
      else monthOf year fuel (month + 1) (rest - daysInMonth year month)

/-- Four centuries have 146097 days, and the calendar repeats after them. -/
def ofOrdinal? (ordinal : Nat) : Option Date :=
  if ordinal = 0 then none
  else
    let cycles := (ordinal - 1) / 146097
    let (year, rest) := yearOf 400 (400 * cycles + 1) ((ordinal - 1) % 146097)
    let (month, rest) := monthOf year 12 1 rest
    of? year month (rest + 1)

/-- Days since Monday. -/
def weekday (ordinal : Nat) : Nat :=
  (ordinal + 6) % 7

/-- The Monday of the first ISO week of a year, that is of the week that holds its first
Thursday. -/
def firstMonday (year : Nat) : Nat :=
  let first := daysBeforeYear year + 1
  if 3 < weekday first then first + 7 - weekday first else first - weekday first

/-- A year has 53 ISO weeks when it starts on a Thursday, or on a Wednesday and is a leap year. -/
def isoWeeks (year : Nat) : Nat :=
  let start := weekday (daysBeforeYear year + 1)
  if start = 3 ∨ (start = 2 ∧ isLeap year) then 53 else 52

def ofIsoWeek? (year week day : Nat) : Option Date :=
  if (1 ≤ year ∧ year ≤ 9999) ∧ (1 ≤ week ∧ week ≤ isoWeeks year) ∧ 1 ≤ day ∧ day ≤ 7 then
    ofOrdinal? (firstMonday year + 7 * (week - 1) + (day - 1))
  else none

def text (date : Date) : Text :=
  Text.padded 4 date.year ++ '-' :: Text.padded 2 date.month ++ '-' :: Text.padded 2 date.day

end Date
end Time
end SqlPipeline
