import SqlPipeline.Json.Basic
import SqlPipeline.Number.Numeral

/-!
Whole numbers in a response, which may also come as a flag, as a real number without a fraction, or
as text. Text may have blanks around, a plus sign, leading zeros, single underscores and a fraction
of zeros.
-/

namespace SqlPipeline
namespace LaxInteger

def isSpace (c : Char) : Bool :=
  Text.isBlank c && !('\x1c' ≤ c && c ≤ '\x1f')

def strip (s : Text) : Text :=
  ((s.dropWhile isSpace).reverse.dropWhile isSpace).reverse

def withoutPlus? : Text -> Option Text
  | '+' :: '-' :: _ => none
  | '+' :: rest => some rest
  | s => some s

/-- Skips zeros and underscores after a leading zero; before a point and at the end the last of
them is kept. -/
def afterZeros? (last : Char) : Text -> Option Text
  | [] => some [last]
  | c :: rest =>
      if c = '0' ∨ c = '_' then afterZeros? c rest
      else if '1' ≤ c ∧ c ≤ '9' then some (c :: rest)
      else if c = '.' then some (last :: c :: rest)
      else none

def withoutZeros? : Text -> Option Text
  | [] => none
  | c :: rest =>
      if c = '0' then afterZeros? c rest
      else if ('1' ≤ c ∧ c ≤ '9') ∨ c = '-' then some (c :: rest)
      else none

/-- Cuts off a point with nothing but zeros after it. -/
def withoutFraction (s : Text) : Text :=
  match s.dropWhile (· ≠ '.') with
  | _ :: zeros => if zeros.all (· = '0') then s.takeWhile (· ≠ '.') else s
  | [] => s

def hasDoubled : Text -> Bool
  | '_' :: '_' :: _ => true
  | _ :: rest => hasDoubled rest
  | [] => false

def withoutUnderscores (s : Text) : Text :=
  if s.head? = some '_' || s.getLast? = some '_' || hasDoubled s then s else s.filter (· ≠ '_')

/-- Digits without leading zeros, after an optional minus sign. -/
def strict? (s : Text) : Option Int :=
  let (negative, digits) := match s with
    | '-' :: rest => (true, rest)
    | s => (false, s)
  if digits.isEmpty || Numeral.longest < digits.length || !digits.all Text.isAsciiDigit
      || (digits.head? = some '0' && 1 < digits.length) then none
  else (Text.digits? digits).map (Numeral.signed negative)

def ofText? (s : Text) : Option Int :=
  match strict? s with
  | some n => some n
  | none => do
      let s ← withoutPlus? (strip s)
      let s ← withoutZeros? s
      strict? (withoutUnderscores (withoutFraction s))

/-- Whole real numbers count below `2 ^ 63` on either side of zero. -/
def ofReal? (x : Binary64) : Option Int := do
  let n ← x.truncate?
  if x.isWhole && n.natAbs < 2 ^ 63 then some n else none

def ofJson? : Json.Node -> Option Int
  | .integer n => some n
  | .bool b => some (if b then 1 else 0)
  | .real x => ofReal? x
  | .text s => ofText? s
  | _ => none

end LaxInteger
end SqlPipeline
