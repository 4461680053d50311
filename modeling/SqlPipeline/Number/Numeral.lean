import SqlPipeline.Text.Blank
import SqlPipeline.Text.Digit

/-!
Numerals as people write them: spaces around, a sign, digits of any script, and single underscores
between digits. Integers longer than `longest` digits are neither read nor written.
-/

namespace SqlPipeline
namespace Numeral

def longest : Nat := 4300

def isSpace (c : Char) : Bool :=
  c = ' ' || ('\t' ≤ c && c ≤ '\r')

/-- The character in ASCII: foreign digits become digits, foreign blanks become spaces, and a
question mark stands for everything else. -/
def plainChar (c : Char) : Char :=
  if Text.isAscii c then c
  else if Text.isBlank c then ' '
  else
    match Text.digit? c with
    | some digit => Nat.digitChar digit
    | none => '?'

def stripSpaces (s : Text) : Text :=
  ((s.dropWhile isSpace).reverse.dropWhile isSpace).reverse

def plain (s : Text) : Text :=
  stripSpaces (s.map plainChar)

/-- Removes underscores, each of which must stand between two digits; `digitBefore` tells whether
the character before the text is a digit. -/
def ungroupFrom? : Bool -> Text -> Option Text
  | _, [] => some []
  | digitBefore, '_' :: rest =>
      if digitBefore && Text.startsWithDigit rest then ungroupFrom? false rest else none
  | _, c :: rest => (ungroupFrom? (Text.isAsciiDigit c) rest).map (c :: ·)

def ungroup? (s : Text) : Option Text :=
  ungroupFrom? false s

/-- Splits off a sign; the flag tells a minus. -/
def sign : Text -> Bool × Text
  | '+' :: rest => (false, rest)
  | '-' :: rest => (true, rest)
  | s => (false, s)

def signed (negative : Bool) (n : Nat) : Int :=
  if negative then -(n : Int) else n

def integerOfPlain? (s : Text) : Option Int := do
  let (negative, digits) := sign s
  let digits ← ungroup? digits
  if digits.isEmpty || longest < digits.length then none
  else some (signed negative (← Text.digits? digits))

def integer? (s : Text) : Option Int :=
  integerOfPlain? (plain s)

/-- Decimal text of an integer that is not too long to be written. -/
def integerText? (n : Int) : Option Text :=
  if n.natAbs < 10 ^ longest then some (Text.ofInt n) else none

end Numeral
end SqlPipeline
