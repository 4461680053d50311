import SqlPipeline.Text.Basic

/-!
Bytes, and their hexadecimal digits.
-/

namespace SqlPipeline

abbrev Byte := Fin 256

/-- The byte that a number leaves when it is divided by 256. -/
def Byte.ofNat (n : Nat) : Byte := Fin.ofNat 256 n

@[simp] theorem Byte.val_ofNat (n : Nat) : (Byte.ofNat n).val = n % 256 := rfl

abbrev Bytes := List Byte

namespace Bytes

/-- `width` hexadecimal digits of a number, the least significant last. -/
def hexDigits : Nat -> Nat -> Text
  | 0, _ => []
  | width + 1, n => hexDigits width (n / 16) ++ [Nat.digitChar (n % 16)]

def hexValue? (c : Char) : Option Nat :=
  if Text.isAsciiDigit c then some (c.toNat - '0'.toNat)
  else if 'a' ≤ c ∧ c ≤ 'f' then some (c.toNat - 'a'.toNat + 10)
  else if 'A' ≤ c ∧ c ≤ 'F' then some (c.toNat - 'A'.toNat + 10)
  else none

def hexNumberFrom? : Nat -> Text -> Option Nat
  | value, [] => some value
  | value, c :: rest => do hexNumberFrom? (16 * value + (← hexValue? c)) rest

def hexNumber? (s : Text) : Option Nat :=
  hexNumberFrom? 0 s

end Bytes
end SqlPipeline
