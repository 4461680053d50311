import SqlPipeline.Text.LetterCase
import SqlPipeline.Value.Basic

/-!
The number that a value denotes. Text and bytes denote what they spell; an identifier denotes its
128-bit number as an integer but not as a real number.
-/

namespace SqlPipeline

/-- Why a value denotes no number of the wanted kind. -/
inductive NumberError where
  /-- The type of the value denotes no number at all. -/
  | notNumeric
  /-- The text spells no number, or the value is not a number. -/
  | malformed
  /-- The number is too great for the wanted kind. -/
  | outOfRange
  deriving DecidableEq, Repr

namespace Value

/-- The text that bytes spell, each byte counting as one character. -/
def spelled (bytes : Bytes) : Text :=
  Numeral.stripSpaces (bytes.map fun byte => Char.ofNat byte.val)

def orMalformed : Option α -> Except NumberError α
  | some x => .ok x
  | none => .error .malformed

def integerOfReal : Binary64 -> Except NumberError Int
  | .nan => .error .malformed
  | .infinity _ => .error .outOfRange
  | x => orMalformed x.truncate?

def integerOfDecimal : Decimal -> Except NumberError Int
  | .nan _ _ _ => .error .malformed
  | .infinity _ => .error .outOfRange
  | .finite negative coefficient exponent =>
      orMalformed (Decimal.wholePart? negative coefficient exponent)

/-- The integer that a value denotes; what has a fraction is cut off toward zero. -/
def integer : Value -> Except NumberError Int
  | bool b => .ok (if b then 1 else 0)
  | int n => .ok n
  | real x => integerOfReal x
  | decimal d => integerOfDecimal d
  | text s => orMalformed (Numeral.integer? s)
  | binary _ bytes => orMalformed (Numeral.integerOfPlain? (spelled bytes))
  | uuid u => .ok u.value.val
  | _ => .error .notNumeric

def realOfInteger (n : Int) : Except NumberError Binary64 :=
  match Binary64.ofInt n with
  | .infinity _ => .error .outOfRange
  | x => .ok x

/-- The real number nearest to what a value denotes. -/
def realNumber : Value -> Except NumberError Binary64
  | bool b => realOfInteger (if b then 1 else 0)
  | int n => realOfInteger n
  | real x => .ok x
  | decimal d => orMalformed d.toBinary64?
  | text s => orMalformed (Numeral.real? s)
  | binary _ bytes => orMalformed (Numeral.realOfPlain? (spelled bytes))
  | _ => .error .notNumeric

/-- Whether a number is above zero; only numbers can be asked. A real that is no number is not above
zero, and a decimal that is none has no answer. -/
def isPositive : Value -> Except NumberError Bool
  | bool b => .ok b
  | int n => .ok (0 < n)
  | real x => .ok x.isPositive
  | decimal (.nan _ _ _) => .error .malformed
  | decimal d => .ok d.isPositive
  | _ => .error .notNumeric

/-- Whether a stored value stands for true: a number other than zero, and the texts `1` and `true`
in any letter case. -/
def truth : Value -> Bool
  | text s => s = ['1'] || Text.lower s = "true".toList
  | value => value.holds

end Value
end SqlPipeline
