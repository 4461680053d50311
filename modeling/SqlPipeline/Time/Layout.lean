import SqlPipeline.Time.Stamp
import SqlPipeline.Text.Blank
import SqlPipeline.Text.Digit

/-!
The layouts in which stored stamps are read. A field takes one or two digits, a year four and a
fraction up to six; a blank in a layout stands for any run of blanks, and letters match in either
case. What a layout leaves out is midnight of the first of January 1900.
-/

namespace SqlPipeline
namespace Time
namespace Layout

inductive Item where
  | year
  | month
  | day
  | hour
  | minute
  | second
  | fraction
  | blanks
  | mark (c : Char)
  deriving DecidableEq, Repr

structure Fields where
  year : Nat
  month : Nat
  day : Nat
  hour : Nat
  minute : Nat
  second : Nat
  micro : Nat
  deriving DecidableEq, Repr

def Fields.start : Fields := ⟨1900, 1, 1, 0, 0, 0, 0⟩

def Fields.stamp? (fields : Fields) : Option Stamp := do
  let date ← Date.of? fields.year fields.month fields.day
  let clock ← Clock.of? fields.hour fields.minute fields.second fields.micro
  some ⟨date, clock⟩

def between (low high c : Char) : Bool :=
  low ≤ c && c ≤ high

/-- The shapes of a field, the preferred one first; a shape lists what each character must be. -/
def shapes : Item -> List (List (Char -> Bool))
  | .year => [[Text.isDigit, Text.isDigit, Text.isDigit, Text.isDigit]]
  | .month => [[(· = '1'), between '0' '2'], [(· = '0'), between '1' '9'], [between '1' '9']]
  | .day =>
      [[(· = '3'), between '0' '1'], [between '1' '2', Text.isDigit], [(· = '0'), between '1' '9'],
        [between '1' '9'], [(· = ' '), between '1' '9']]
  | .hour => [[(· = '2'), between '0' '3'], [between '0' '1', Text.isDigit], [Text.isDigit]]
  | .minute => [[between '0' '5', Text.isDigit], [Text.isDigit]]
  | .second => [[(· = '6'), between '0' '1'], [between '0' '5', Text.isDigit], [Text.isDigit]]
  | _ => []

def fits : List (Char -> Bool) -> Text -> Bool
  | [], _ => true
  | _ :: _, [] => false
  | test :: tests, c :: rest => test c && fits tests rest

def number (digits : Text) : Nat :=
  (Text.digits? (Text.trimStart digits)).getD 0

/-- The value of the first shape that fits, and the text after it. -/
def field? (item : Item) (s : Text) : Option (Nat × Text) :=
  match (shapes item).find? fun shape => fits shape s with
  | some shape => some (number (s.take shape.length), s.drop shape.length)
  | none => none

def fraction? (s : Text) : Option (Nat × Text) :=
  let digits := (s.take 6).takeWhile Text.isAsciiDigit
  if digits.isEmpty then none
  else some (number (List.rightpad 6 '0' digits), s.drop digits.length)

def readItem? (fields : Fields) (s : Text) : Item -> Option (Fields × Text)
  | .year => (field? .year s).map fun (n, rest) => ({ fields with year := n }, rest)
  | .month => (field? .month s).map fun (n, rest) => ({ fields with month := n }, rest)
  | .day => (field? .day s).map fun (n, rest) => ({ fields with day := n }, rest)
  | .hour => (field? .hour s).map fun (n, rest) => ({ fields with hour := n }, rest)
  | .minute => (field? .minute s).map fun (n, rest) => ({ fields with minute := n }, rest)
  | .second => (field? .second s).map fun (n, rest) => ({ fields with second := n }, rest)
  | .fraction => (fraction? s).map fun (n, rest) => ({ fields with micro := n }, rest)
  | .blanks => (Text.afterBlanks? s).map fun rest => (fields, rest)
  | .mark c =>
      match s with
      | [] => none
      | d :: rest => if d.toUpper = c then some (fields, rest) else none

/-- Reads the whole of a text. -/
def read? : List Item -> Fields -> Text -> Option Fields
  | [], fields, s => if s.isEmpty then some fields else none
  | item :: items, fields, s => do
      let (fields, rest) ← readItem? fields s item
      read? items fields rest

def date : List Item := [.year, .mark '-', .month, .mark '-', .day]

def toMinute : List Item := [.hour, .mark ':', .minute]

def toSecond : List Item := toMinute ++ [.mark ':', .second]

def toFraction : List Item := toSecond ++ [.mark '.', .fraction]

/-- The layouts in the order in which they are tried. -/
def all : List (List Item) :=
  [date ++ .blanks :: toFraction, date ++ .blanks :: toSecond, date ++ .blanks :: toMinute, date,
    date ++ .mark 'T' :: toFraction, date ++ .mark 'T' :: toSecond, toSecond,
    date ++ .mark 'T' :: toFraction ++ [.mark 'Z']]

def stampOf? (layout : List Item) (s : Text) : Option Stamp := do
  (← read? layout Fields.start s).stamp?

def stamp? (s : Text) : Option Stamp :=
  all.findSome? fun layout => stampOf? layout s

end Layout
end Time
end SqlPipeline
