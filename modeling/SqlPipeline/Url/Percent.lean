import SqlPipeline.Bytes.Utf8

/-!
Percent encoding. Each component of an address has a set of characters that stand for themselves;
all others are written as the bytes of their UTF-8 form. A percent sign always stands for itself, so
that what is encoded already stays as it is.
-/

namespace SqlPipeline
namespace Url

def isUnreserved (c : Char) : Bool :=
  Text.isAsciiLetter c || Text.isAsciiDigit c || "-._~".toList.elem c

/-- A visible ASCII character that is not one of those given. -/
def isPlainBut (excluded : Text) (c : Char) : Bool :=
  '!' ≤ c && c ≤ '~' && !excluded.elem c

def isFragmentChar (c : Char) : Bool :=
  isPlainBut "\"<>`" c

def isQueryChar (c : Char) : Bool :=
  isPlainBut "\"#<>" c

def isPathChar (c : Char) : Bool :=
  isPlainBut "\"#<>?`\x7b\x7d" c

def isUserChar (c : Char) : Bool :=
  isPlainBut "\"#<>?`\x7b\x7d/;=@[\\]^|" c

def isHostChar (c : Char) : Bool :=
  isUnreserved c || "!$&'()*+,;=\"`\x7b\x7d%|\\".toList.elem c

def byteCode (byte : Byte) : Text :=
  '%' :: (Bytes.hexDigits 2 byte.val).map Char.toUpper

def encodeChar (isSafe : Char -> Bool) (c : Char) : Text :=
  if isSafe c then [c] else (Utf8.encodeChar c).flatMap byteCode

def encode (isSafe : Char -> Bool) (s : Text) : Text :=
  s.flatMap (encodeChar isSafe)

/-- The bytes that encoded text stands for. -/
def codedBytes : Text -> Bytes
  | [] => []
  | '%' :: high :: low :: rest =>
      match Bytes.hexNumber? [high, low] with
      | some n => Byte.ofNat n :: codedBytes rest
      | none => Utf8.encodeChar '%' ++ codedBytes (high :: low :: rest)
  | c :: rest => Utf8.encodeChar c ++ codedBytes rest
termination_by s => s.length
decreasing_by all_goals simp_wf; try omega

def decode (s : Text) : Text :=
  Utf8.decodeReplacing (codedBytes s)

end Url
end SqlPipeline
