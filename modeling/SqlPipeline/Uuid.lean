import SqlPipeline.Bytes.Basic
import SqlPipeline.Number.Numeral

/-!
Universally unique identifiers. The text form is read leniently: markers, braces and hyphens are
dropped, and what is left must be 32 characters that spell a hexadecimal number. The binary form
has its first three fields with the least significant byte first.
-/

namespace SqlPipeline

structure Uuid where
  value : Fin (2 ^ 128)
  deriving DecidableEq, Repr

namespace Uuid

def zero : Uuid := ⟨0⟩

def hex (uuid : Uuid) : Text :=
  Bytes.hexDigits 32 uuid.value

def text (uuid : Uuid) : Text :=
  let h := uuid.hex
  h.take 8 ++ '-' :: (h.drop 8).take 4 ++ '-' :: (h.drop 12).take 4 ++ '-' :: (h.drop 16).take 4
    ++ '-' :: h.drop 20

def ofNat? (n : Nat) : Option Uuid :=
  if h : n < 2 ^ 128 then some ⟨⟨n, h⟩⟩ else none

/-- The least significant byte last. -/
def bigEndian (bytes : Bytes) : Nat :=
  bytes.foldl (fun n byte => n * 256 + byte.val) 0

def ofBytes? (bytes : Bytes) : Option Uuid :=
  if bytes.length = 16 then
    ofNat? (bigEndian ((bytes.take 4).reverse ++ ((bytes.drop 4).take 2).reverse
      ++ ((bytes.drop 6).take 2).reverse ++ bytes.drop 8))
  else none

def isBrace (c : Char) : Bool :=
  c = '\x7b' || c = '\x7d'

def stripBraces (s : Text) : Text :=
  ((s.dropWhile isBrace).reverse.dropWhile isBrace).reverse

def digitsOf (s : Text) : Text :=
  (stripBraces (Text.remove "uuid:" (Text.remove "urn:" s))).filter (· ≠ '-')

/-- The digits after a base mark, which may be followed by one underscore. -/
def afterBaseMark : Text -> Text
  | '0' :: 'x' :: '_' :: rest => rest
  | '0' :: 'X' :: '_' :: rest => rest
  | '0' :: 'x' :: rest => rest
  | '0' :: 'X' :: rest => rest
  | s => s

/-- Removes underscores, each of which must stand between two digits. -/
def ungroupFrom? : Bool -> Text -> Option Text
  | _, [] => some []
  | digitBefore, '_' :: rest =>
      match rest with
      | c :: _ => if digitBefore && c ≠ '_' then ungroupFrom? false rest else none
      | [] => none
  | _, c :: rest => (ungroupFrom? true rest).map (c :: ·)

def number? (s : Text) : Option Nat := do
  let (negative, s) := Numeral.sign (Numeral.plain s)
  let digits ← ungroupFrom? false (afterBaseMark s)
  let n ← Bytes.hexNumber? digits
  if digits.isEmpty || (negative && n ≠ 0) then none else some n

def ofText? (s : Text) : Option Uuid := do
  let digits := digitsOf s
  if digits.length = 32 then ofNat? (← number? digits) else none

end Uuid
end SqlPipeline
