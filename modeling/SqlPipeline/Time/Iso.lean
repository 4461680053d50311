import SqlPipeline.Time.Stamp

/-!
Moments in the forms of ISO 8601: a calendar date or a week date, with hyphens or without, then
optionally any one character, a time of day with colons or without, and an offset. A text is taken
as it stands, without blanks around. Only ASCII digits count.

The reader is lenient about what stands between a time and its offset: one ASCII character there
is passed over, and so is anything after six digits of a fraction.
-/

namespace SqlPipeline
namespace Time
namespace Iso

/-- A number of exactly `count` digits. -/
def digits? : Nat -> Nat -> Text -> Option (Nat × Text)
  | 0, value, s => some (value, s)
  | _ + 1, _, [] => none
  | count + 1, value, c :: rest =>
      if Text.isAsciiDigit c then digits? count (10 * value + (c.toNat - '0'.toNat)) rest else none

def number? (count : Nat) (s : Text) : Option (Nat × Text) :=
  digits? count 0 s

def isDigitAt (s : Text) (index : Nat) : Bool :=
  (s[index]?).any Text.isAsciiDigit

/-- How many characters the date of a text takes. A week date without a day is told from one with
a day by whether the digits after it come in pairs. -/
def dateLength (s : Text) : Nat :=
  if s.length = 7 then 7
  else if s[4]? = some '-' then
    if s[5]? = some 'W' then
      if s[8]? = some '-' ∧ s.length ≠ 9 then (if isDigitAt s 10 then 8 else 10) else 8
    else 10
  else if s[4]? = some 'W' then
    let digitsEnd := 7 + ((s.drop 7).takeWhile Text.isAsciiDigit).length
    if digitsEnd < 9 then digitsEnd else if digitsEnd % 2 = 0 then 7 else 8
  else 8

/-- A hyphen where hyphens are used, else nothing. -/
def afterHyphen? (hyphens : Bool) (s : Text) : Option Text :=
  if hyphens then
    match s with
    | '-' :: rest => some rest
    | _ => none
  else some s

def weekDate? (hyphens : Bool) (year : Nat) (s : Text) : Option Date := do
  let (week, s) ← number? 2 s
  if s.isEmpty then Date.ofIsoWeek? year week 1
  else
    let s ← afterHyphen? hyphens s
    let (day, _) ← number? 1 s
    Date.ofIsoWeek? year week day

def calendarDate? (hyphens : Bool) (year : Nat) (s : Text) : Option Date := do
  let (month, s) ← number? 2 s
  let s ← afterHyphen? hyphens s
  let (day, _) ← number? 2 s
  Date.of? year month day

def date? (s : Text) : Option Date := do
  let (year, s) ← number? 4 s
  let (hyphens, s) := match s with
    | '-' :: rest => (true, rest)
    | s => (false, s)
  match s with
  | 'W' :: rest => weekDate? hyphens year rest
  | s => calendarDate? hyphens year s

/-- Hours, minutes, seconds and microseconds, unchecked, and whether all of the text was used. -/
structure Parts where
  hour : Nat
  minute : Nat
  second : Nat
  micro : Nat
  complete : Bool
  deriving DecidableEq, Repr

/-- A NUL ends a text too. -/
def isEnd : Text -> Bool
  | [] => true
  | c :: _ => c = '\x00'

/-- Microseconds of a fraction of one or more digits; digits past the sixth are cut off. -/
def fraction? (s : Text) : Option (Nat × Bool) := do
  let count := min 6 s.length
  let (value, rest) ← number? count s
  some (value * 10 ^ (6 - count), isEnd (rest.dropWhile Text.isAsciiDigit))

/-- What follows a field of two digits. -/
inductive Next where
  | stop (complete : Bool)
  | field (rest : Text)
  | fraction (rest : Text)
  deriving DecidableEq, Repr

/-- A single ASCII character at the end is passed over, which leaves the reading incomplete. -/
def next? (colons : Bool) (s : Text) : Option Next :=
  match s with
  | [] => some (.stop true)
  | [c] => if Text.isAscii c then some (.stop (c = '\x00')) else none
  | c :: rest =>
      if colons && c = ':' then some (.field rest)
      else if c = '.' ∨ c = ',' then some (.fraction rest)
      else if colons then none
      else some (.field s)

def finish? (hour minute second : Nat) (s : Text) : Option Parts := do
  let (micro, complete) ← fraction? s
  some ⟨hour, minute, second, micro, complete⟩

def parts? (s : Text) : Option Parts := do
  let (hour, s) ← number? 2 s
  let colons := s.head? = some ':'
  match ← next? colons s with
  | .stop complete => some ⟨hour, 0, 0, 0, complete⟩
  | .fraction s => finish? hour 0 0 s
  | .field s => do
      let (minute, s) ← number? 2 s
      match ← next? colons s with
      | .stop complete => some ⟨hour, minute, 0, 0, complete⟩
      | .fraction s => finish? hour minute 0 s
      | .field s => do
          let (second, s) ← number? 2 s
          match ← next? colons s with
          | .stop complete => some ⟨hour, minute, second, 0, complete⟩
          | .fraction s => finish? hour minute second s
          | .field s => finish? hour minute second s

def startsOffset (c : Char) : Bool :=
  c = '+' || c = '-' || c = 'Z'

/-- An offset of whole zero seconds is universal time. -/
def offset? (negative : Bool) (s : Text) : Option Offset := do
  let parts ← parts? s
  let seconds := (parts.hour * 60 + parts.minute) * 60 + parts.second
  let size := if seconds = 0 then 0 else seconds * 1000000 + parts.micro
  let offset : Offset := if negative then -(size : Int) else size
  if parts.complete && offset.isValid then some offset else none

def clock? (s : Text) : Option (Clock × Option Offset) := do
  let time := s.takeWhile fun c => !startsOffset c
  let zone := s.dropWhile fun c => !startsOffset c
  let parts ← parts? time
  let clock := Clock.of? parts.hour parts.minute parts.second parts.micro
  match zone with
  | [] => if parts.complete then some (← clock, none) else none
  | mark :: rest =>
      if mark = 'Z' then
        if isEnd rest then some (← clock, some 0) else none
      else
        let offset ← offset? (mark = '-') rest
        some (← clock, some offset)

def moment? (s : Text) : Option Moment := do
  let length := dateLength s
  let date ← date? (s.take length)
  match s.drop length with
  | [] => some (.naive (.atMidnight date))
  | _ :: rest => do
      let (clock, offset?) ← clock? rest
      some ⟨⟨date, clock⟩, offset?⟩

end Iso
end Time
end SqlPipeline
