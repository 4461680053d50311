import SqlPipeline.Bytes.Basic

/-!
UTF-8. A lead byte tells how many bytes follow it and where the first of them may lie. In decoding,
the longest stretch of bytes that starts a character but does not complete it counts as one fault.
-/

namespace SqlPipeline
namespace Utf8

/-- What a lead byte says: its bits of the character, the number of bytes that follow, and the
bounds of the first of those. -/
structure Lead where
  bits : Nat
  following : Nat
  low : Nat
  high : Nat

def lead? (byte : Nat) : Option Lead :=
  if byte < 0x80 then some ⟨byte, 0, 0, 0⟩
  else if byte < 0xc2 then none
  else if byte < 0xe0 then some ⟨byte - 0xc0, 1, 0x80, 0xbf⟩
  else if byte = 0xe0 then some ⟨0, 2, 0xa0, 0xbf⟩
  else if byte = 0xed then some ⟨0xd, 2, 0x80, 0x9f⟩
  else if byte < 0xf0 then some ⟨byte - 0xe0, 2, 0x80, 0xbf⟩
  else if byte = 0xf0 then some ⟨0, 3, 0x90, 0xbf⟩
  else if byte < 0xf4 then some ⟨byte - 0xf0, 3, 0x80, 0xbf⟩
  else if byte = 0xf4 then some ⟨4, 3, 0x80, 0x8f⟩
  else none

/-- Takes the bytes that follow a lead byte; `none` when one is out of bounds or missing. -/
def follow : Nat -> Nat -> Nat -> Nat -> Bytes -> Option Nat × Bytes
  | 0, _, _, bits, bytes => (some bits, bytes)
  | _ + 1, _, _, _, [] => (none, [])
  | count + 1, low, high, bits, byte :: rest =>
      if low ≤ byte.val ∧ byte.val ≤ high then
        follow count 0x80 0xbf (bits * 64 + (byte.val - 0x80)) rest
      else (none, byte :: rest)

theorem follow_length_le (count low high bits : Nat) (bytes : Bytes) :
    (follow count low high bits bytes).2.length ≤ bytes.length := by
  induction count generalizing low high bits bytes with
  | zero => exact Nat.le_refl _
  | succ count length_le =>
      cases bytes with
      | nil => exact Nat.le_refl _
      | cons byte rest =>
          simp only [follow]
          split
          · exact Nat.le_succ_of_le (length_le _ _ _ _)
          · exact Nat.le_refl _

/-- The first character of some bytes, `none` for a fault, and the bytes after it. -/
def step (byte : Byte) (rest : Bytes) : Option Char × Bytes :=
  match lead? byte.val with
  | none => (none, rest)
  | some lead =>
      let next := follow lead.following lead.low lead.high lead.bits rest
      (next.1.map Char.ofNat, next.2)

theorem step_length_le (byte : Byte) (rest : Bytes) :
    (step byte rest).2.length ≤ rest.length := by
  unfold step
  split
  · exact Nat.le_refl _
  · exact follow_length_le _ _ _ _ _

/-- The characters of some bytes, `none` standing for each fault. -/
def scan : Bytes -> List (Option Char)
  | [] => []
  | byte :: rest => (step byte rest).1 :: scan (step byte rest).2
termination_by bytes => bytes.length
decreasing_by exact Nat.lt_succ_of_le (step_length_le _ _)

def decode? (bytes : Bytes) : Option Text :=
  (scan bytes).mapM id

/-- Decodes with the replacement character for each fault. -/
def decodeReplacing (bytes : Bytes) : Text :=
  (scan bytes).map fun c => c.getD '\ufffd'

/-- A byte that follows a lead byte: six bits of the character. -/
def trailing (bits : Nat) : Byte :=
  Byte.ofNat (0x80 + bits % 64)

def encodeChar (c : Char) : Bytes :=
  let n := c.toNat
  if n < 0x80 then [Byte.ofNat n]
  else if n < 0x800 then [Byte.ofNat (0xc0 + n / 64), trailing n]
  else if n < 0x10000 then [Byte.ofNat (0xe0 + n / 4096), trailing (n / 64), trailing n]
  else
    [Byte.ofNat (0xf0 + n / 262144), trailing (n / 4096), trailing (n / 64), trailing n]

def encode (s : Text) : Bytes :=
  s.flatMap encodeChar

end Utf8
end SqlPipeline
