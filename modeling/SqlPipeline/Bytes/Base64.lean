import SqlPipeline.Bytes.Basic

/-!
Base64 with the standard alphabet. Encoding pads to whole quads. Decoding takes nothing outside the
alphabet; a last quad of two or three digits must be completed by padding and end the text, and its
unused bits are free. Padding after whole quads is passed over.
-/

namespace SqlPipeline
namespace Base64

def digit (n : Nat) : Char :=
  if n < 26 then Char.ofNat ('A'.toNat + n)
  else if n < 52 then Char.ofNat ('a'.toNat + (n - 26))
  else if n < 62 then Char.ofNat ('0'.toNat + (n - 52))
  else if n = 62 then '+'
  else '/'

def value? (c : Char) : Option Nat :=
  if 'A' ≤ c ∧ c ≤ 'Z' then some (c.toNat - 'A'.toNat)
  else if 'a' ≤ c ∧ c ≤ 'z' then some (c.toNat - 'a'.toNat + 26)
  else if '0' ≤ c ∧ c ≤ '9' then some (c.toNat - '0'.toNat + 52)
  else if c = '+' then some 62
  else if c = '/' then some 63
  else none

def encode : Bytes -> Text
  | [] => []
  | [a] => [digit (a.val / 4), digit (a.val % 4 * 16), '=', '=']
  | [a, b] =>
      [digit (a.val / 4), digit (a.val % 4 * 16 + b.val / 16), digit (b.val % 16 * 4), '=']
  | a :: b :: c :: rest =>
      digit (a.val / 4) :: digit (a.val % 4 * 16 + b.val / 16) ::
        digit (b.val % 16 * 4 + c.val / 64) :: digit (c.val % 64) :: encode rest

def first (p q : Nat) : Byte := Byte.ofNat (p * 4 + q / 16)

def second (q r : Nat) : Byte := Byte.ofNat (q % 16 * 16 + r / 4)

def third (r s : Nat) : Byte := Byte.ofNat (r % 4 * 64 + s)

/-- Decodes quad by quad; `started` tells that a quad was read before. -/
def decodeFrom? (started : Bool) : Text -> Option Bytes
  | [] => some []
  | '=' :: rest => if started && rest.all (· = '=') then some [] else none
  | [p, q, '=', '='] => do some [first (← value? p) (← value? q)]
  | [p, q, r, '='] => do
      let q ← value? q
      let r ← value? r
      some [first (← value? p) q, second q r]
  | p :: q :: r :: s :: rest => do
      let q ← value? q
      let r ← value? r
      let later ← decodeFrom? true rest
      some (first (← value? p) q :: second q r :: third r (← value? s) :: later)
  | _ => none

def decode? (s : Text) : Option Bytes :=
  decodeFrom? false s

end Base64
end SqlPipeline
