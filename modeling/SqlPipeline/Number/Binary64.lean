import SqlPipeline.Text.Basic

/-!
Binary floating-point numbers of double precision. The magnitudes of finite numbers are numbered
in order, so that a finite number is a sign and a rank below `Binary64.ranks`. Every magnitude is a
whole number of units, one unit being the least positive magnitude, `2 ^ -1074`.
-/

namespace SqlPipeline

inductive Binary64 where
  | nan
  | infinity (negative : Bool)
  | finite (negative : Bool) (rank : Fin (2047 * 2 ^ 52))
  deriving DecidableEq, Repr

namespace Binary64

def ranks : Nat := 2047 * 2 ^ 52

def unitsPerOne : Nat := 2 ^ 1074

/-- The magnitude of a rank in units. The lowest ranks are one unit apart, and the distance doubles
every `2 ^ 52` ranks. -/
def units (rank : Nat) : Nat :=
  if rank < 2 ^ 52 then rank else (2 ^ 52 + rank % 2 ^ 52) * 2 ^ (rank / 2 ^ 52 - 1)

/-- The rank nearest to `amount / divisor` units, ties going to the even rank. Ranks from `ranks`
up are beyond every finite number. -/
def nearestRank (amount divisor : Nat) : Nat :=
  let level := (amount / divisor).log2 - 52
  let spacing := divisor * 2 ^ level
  let quotient := amount / spacing
  let remainder := amount % spacing
  let roundsUp := spacing < 2 * remainder || (2 * remainder = spacing && quotient % 2 = 1)
  level * 2 ^ 52 + quotient + (if roundsUp then 1 else 0)

def ofRank (negative : Bool) (rank : Nat) : Binary64 :=
  if h : rank < 2047 * 2 ^ 52 then finite negative ⟨rank, h⟩ else infinity negative

/-- The number nearest to a ratio. -/
def ofRatio (negative : Bool) (numerator denominator : Nat) : Binary64 :=
  ofRank negative (nearestRank (numerator * unitsPerOne) denominator)

def ofInt (n : Int) : Binary64 :=
  ofRatio (n < 0) n.natAbs 1

/-- The number nearest to `coefficient * 10 ^ exponent`. Exponents far outside the range are
answered without computing the power. -/
def ofDecimal (negative : Bool) (coefficient : Nat) (exponent : Int) : Binary64 :=
  let leading := exponent + (Nat.toDigits 10 coefficient).length
  if coefficient = 0 || leading < -400 then ofRank negative 0
  else if 400 < leading then infinity negative
  else if 0 ≤ exponent then ofRatio negative (coefficient * 10 ^ exponent.toNat) 1
  else ofRatio negative coefficient (10 ^ (-exponent).toNat)

/-- A finite number in signed units. -/
def signedUnits (negative : Bool) (rank : Nat) : Int :=
  if negative then -(units rank : Int) else units rank

/-- A number given exactly in units; `negativeZero` is the sign of a zero. -/
def ofUnits (negativeZero : Bool) (amount : Int) : Binary64 :=
  if amount = 0 then ofRank negativeZero 0
  else ofRank (amount < 0) (nearestRank amount.natAbs 1)

def neg : Binary64 -> Binary64
  | nan => nan
  | infinity negative => infinity !negative
  | finite negative rank => finite (!negative) rank

def add : Binary64 -> Binary64 -> Binary64
  | nan, _ => nan
  | _, nan => nan
  | infinity s, infinity t => if s = t then infinity s else nan
  | infinity s, _ => infinity s
  | _, infinity t => infinity t
  | finite s m, finite t n => ofUnits (s && t) (signedUnits s m + signedUnits t n)

def sub (x y : Binary64) : Binary64 :=
  add x (neg y)

def isZero : Binary64 -> Bool
  | finite _ rank => rank.val = 0
  | _ => false

/-- Whether the number is above zero. -/
def isPositive : Binary64 -> Bool
  | nan => false
  | infinity negative => !negative
  | finite negative rank => !negative && rank.val ≠ 0

def isWhole : Binary64 -> Bool
  | finite _ rank => units rank % unitsPerOne = 0
  | _ => false

/-- The whole part, rounded toward zero. -/
def truncate? : Binary64 -> Option Int
  | finite negative rank => some (if negative then -(units rank / unitsPerOne : Nat)
      else (units rank / unitsPerOne : Nat))
  | _ => none

end Binary64
end SqlPipeline
