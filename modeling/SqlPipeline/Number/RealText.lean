import SqlPipeline.Number.Numeral
import SqlPipeline.Number.Shortest

/-!
Reading real numbers: a decimal numeral with an optional fraction and exponent, or the name of an
infinity or of no number at all, in any letter case.
-/

namespace SqlPipeline
namespace Numeral

/-- An unsigned decimal numeral: its digits before and after the point, and its exponent. -/
structure Scientific where
  whole : Text
  fraction : Text
  exponent : Int
  deriving DecidableEq, Repr

def exponentOf? : Text -> Option Int
  | [] => some 0
  | mark :: rest =>
      if mark = 'e' ∨ mark = 'E' then do
        let (negative, digits) := sign rest
        if digits.isEmpty || !digits.all Text.isAsciiDigit then none
        else some (signed negative (← Text.digits? digits))
      else none

def scientific? (s : Text) : Option Scientific := do
  let whole := s.takeWhile Text.isAsciiDigit
  let rest := s.dropWhile Text.isAsciiDigit
  let (fraction, rest) := match rest with
    | '.' :: rest => (rest.takeWhile Text.isAsciiDigit, rest.dropWhile Text.isAsciiDigit)
    | rest => ([], rest)
  if whole.isEmpty && fraction.isEmpty then none
  else some ⟨whole, fraction, ← exponentOf? rest⟩

def Scientific.coefficient (numeral : Scientific) : Nat :=
  (Text.digits? (numeral.whole ++ numeral.fraction)).getD 0

def Scientific.scale (numeral : Scientific) : Int :=
  numeral.exponent - numeral.fraction.length

def Scientific.toBinary64 (negative : Bool) (numeral : Scientific) : Binary64 :=
  Binary64.ofDecimal negative numeral.coefficient numeral.scale

/-- A real number that is already in ASCII and without spaces around. -/
def realOfPlain? (s : Text) : Option Binary64 := do
  let s ← ungroup? s
  let (negative, magnitude) := sign s
  let name := magnitude.map Char.toLower
  if name = "nan".toList then some .nan
  else if name = "inf".toList ∨ name = "infinity".toList then some (.infinity negative)
  else some ((← scientific? magnitude).toBinary64 negative)

def real? (s : Text) : Option Binary64 :=
  realOfPlain? (plain s)

end Numeral
end SqlPipeline
