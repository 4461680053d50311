import SqlPipeline.Number.Binary64

/-!
Decimal text of binary numbers: the fewest digits that read back as the same number, and of those
the nearest. Where the digits are placed is up to the layout.
-/

namespace SqlPipeline
namespace Binary64

/-- A decimal magnitude `coefficient * 10 ^ exponent`. -/
structure Digits where
  coefficient : Nat
  exponent : Int
  deriving DecidableEq, Repr

def Digits.readsBack (digits : Digits) (rank : Nat) : Bool :=
  ofDecimal false digits.coefficient digits.exponent = ofRank false rank

/-- How many times a magnitude below one must be multiplied by ten to reach one. -/
def stepsToOne : Nat -> Nat -> Nat
  | 0, _ => 0
  | fuel + 1, amount => if unitsPerOne ≤ amount then 0 else stepsToOne fuel (10 * amount) + 1

/-- The exponent of the first digit of a positive magnitude given in units. -/
def leadingExponent (amount : Nat) : Int :=
  if unitsPerOne ≤ amount then ((Nat.toDigits 10 (amount / unitsPerOne)).length : Int) - 1
  else -(stepsToOne 400 amount : Int)

/-- The magnitude on the grid of `10 ^ exponent`: the point below, and what is left, over a common
divisor. -/
def onGrid (amount : Nat) (exponent : Int) : Nat × Nat × Nat :=
  let scaled := amount * 10 ^ (-exponent).toNat
  let divisor := unitsPerOne * 10 ^ exponent.toNat
  (scaled / divisor, scaled % divisor, divisor)

/-- The nearer of the two grid points around a magnitude that reads back, if one does. -/
def onGrid? (rank : Nat) (exponent : Int) : Option Digits :=
  let (low, rest, divisor) := onGrid (units rank) exponent
  let below : Digits := ⟨low, exponent⟩
  let above : Digits := ⟨low + 1, exponent⟩
  let preferBelow := 2 * rest < divisor || (2 * rest = divisor && low % 2 = 0)
  let (first, second) := if preferBelow then (below, above) else (above, below)
  if first.readsBack rank then some first
  else if second.readsBack rank then some second
  else none

/-- Tries one more digit until the digits read back. -/
def search (rank : Nat) (leading : Int) : Nat -> Nat -> Option Digits
  | 0, _ => none
  | fuel + 1, count =>
      (onGrid? rank (leading - count)).or (search rank leading fuel (count + 1))

/-- All digits of a magnitude. -/
def exactDigits (rank : Nat) : Digits :=
  ⟨units rank * 5 ^ 1074, -1074⟩

def shortest (rank : Nat) : Digits :=
  if rank = 0 then ⟨0, 0⟩
  else (search rank (leadingExponent (units rank)) 17 0).getD (exactDigits rank)

/-- How the digits of a number are set out. -/
structure Layout where
  /-- Exponents of the first digit from this one on are written positionally, up to fifteen. -/
  leastPositional : Int
  /-- The least number of digits of a written exponent. -/
  exponentWidth : Nat
  nan : Text
  infinity : Text
  negativeInfinity : Text

def stripZeros (digits : Text) : Text :=
  match (digits.reverse.dropWhile (· = '0')).reverse with
  | [] => ['0']
  | digits => digits

def positional (digits : Text) (leading : Int) : Text :=
  if leading < 0 then "0." ++ List.replicate (-leading - 1).toNat '0' ++ digits
  else
    let whole := List.rightpad (leading.toNat + 1) '0' digits
    let fraction := whole.drop (leading.toNat + 1)
    whole.take (leading.toNat + 1) ++ '.' :: (if fraction.isEmpty then ['0'] else fraction)

def scientific (width : Nat) (digits : Text) (leading : Int) : Text :=
  digits.take 1 ++ (if digits.length ≤ 1 then [] else '.' :: digits.drop 1)
    ++ ['e', if leading < 0 then '-' else '+'] ++ Text.padded width leading.natAbs

def Layout.magnitude (layout : Layout) (rank : Nat) : Text :=
  let digits := shortest rank
  let written := Text.decimal digits.coefficient
  let leading := digits.exponent + (written.length - 1 : Nat)
  if layout.leastPositional ≤ leading && leading ≤ 15 then
    positional (stripZeros written) leading
  else scientific layout.exponentWidth (stripZeros written) leading

def Layout.text (layout : Layout) : Binary64 -> Text
  | .nan => layout.nan
  | .infinity negative => if negative then layout.negativeInfinity else layout.infinity
  | .finite negative rank => (if negative then ['-'] else []) ++ layout.magnitude rank

end Binary64
end SqlPipeline
