import SqlPipeline.Number.RealText

/-!
Decimal numbers that keep their digits and their exponent, so that `1.50` and `1.5` are different
texts of one value. A number is read whole or not at all; nothing is rounded.
-/

namespace SqlPipeline

inductive Decimal where
  | finite (negative : Bool) (coefficient : Nat) (exponent : Int)
  | infinity (negative : Bool)
  | nan (negative : Bool) (signaling : Bool) (payload : Nat)
  deriving DecidableEq, Repr

namespace Decimal

/-- The greatest exponent that the first digit of a number may have. -/
def greatestExponent : Int := 999999999999999999

/-- The least exponent that the last digit of a number may have. -/
def leastExponent : Int := -1999999999999999997

def plainChar (c : Char) : Char :=
  if Text.isAscii c then c else Numeral.plainChar c

/-- Trims blanks, drops underscores and writes foreign digits as digits. -/
def plain (s : Text) : Text :=
  ((Text.trim s).filter (· ≠ '_')).map plainChar

def bounded? (negative : Bool) (coefficient : Nat) (exponent : Int) : Option Decimal :=
  let leading := exponent + ((Text.decimal coefficient).length - 1 : Nat)
  if leading ≤ greatestExponent && leastExponent ≤ exponent then
    some (finite negative coefficient exponent)
  else none

def payload? (digits : Text) : Option Nat :=
  if digits.all Text.isAsciiDigit then Text.digits? digits else none

def ofPlain? (s : Text) : Option Decimal :=
  let (negative, magnitude) := Numeral.sign s
  let name := magnitude.map Char.toLower
  if name = "inf".toList ∨ name = "infinity".toList then some (infinity negative)
  else if "nan".toList.isPrefixOf name then (payload? (name.drop 3)).map (nan negative false)
  else if "snan".toList.isPrefixOf name then (payload? (name.drop 4)).map (nan negative true)
  else do
    let numeral ← Numeral.scientific? magnitude
    bounded? negative numeral.coefficient numeral.scale

def ofText? (s : Text) : Option Decimal :=
  ofPlain? (plain s)

def exponentText (exponent : Int) : Text :=
  'E' :: (if exponent < 0 then '-' else '+') :: Text.decimal exponent.natAbs

/-- The digits with a point: positional down to six zeros after the point, else with an exponent. -/
def magnitudeText (coefficient : Nat) (exponent : Int) : Text :=
  let digits := Text.decimal coefficient
  let leading := exponent + (digits.length - 1 : Nat)
  if exponent ≤ 0 ∧ -6 ≤ leading then
    let places := (-exponent).toNat
    let padded := List.leftpad (places + 1) '0' digits
    let whole := padded.take (padded.length - places)
    if places = 0 then whole else whole ++ '.' :: padded.drop (padded.length - places)
  else
    digits.take 1 ++ (if digits.length ≤ 1 then [] else '.' :: digits.drop 1)
      ++ exponentText leading

def signText (negative : Bool) : Text :=
  if negative then ['-'] else []

def text : Decimal -> Text
  | finite negative coefficient exponent => signText negative ++ magnitudeText coefficient exponent
  | infinity negative => signText negative ++ "Infinity"
  | nan negative signaling payload =>
      signText negative ++ (if signaling then "sNaN" else "NaN").toList
        ++ (if payload = 0 then [] else Text.decimal payload)

def isZero : Decimal -> Bool
  | finite _ coefficient _ => coefficient = 0
  | _ => false

def isPositive : Decimal -> Bool
  | finite negative coefficient _ => !negative && coefficient ≠ 0
  | infinity negative => !negative
  | nan _ _ _ => false

/-- The whole part of a finite number, unless it is too long to be written. -/
def wholePart? (negative : Bool) (coefficient : Nat) (exponent : Int) : Option Int :=
  if coefficient = 0 then some 0
  else if (Numeral.longest : Int) < exponent then none
  else if 0 ≤ exponent then some (Numeral.signed negative (coefficient * 10 ^ exponent.toNat))
  else if exponent < -((Text.decimal coefficient).length : Int) then some 0
  else some (Numeral.signed negative (coefficient / 10 ^ (-exponent).toNat))

/-- The nearest binary number; a signaling NaN has none. -/
def toBinary64? : Decimal -> Option Binary64
  | finite negative coefficient exponent => some (Binary64.ofDecimal negative coefficient exponent)
  | infinity negative => some (.infinity negative)
  | nan _ signaling _ => if signaling then none else some .nan

end Decimal
end SqlPipeline
