/-!
Text is a list of characters, which is cut, joined and padded as any list is. The searches of the
library are defined here by recursion on that list; a range table is a list of first and last code
points.
-/

namespace SqlPipeline

/-- Powers of numbers are those of the core library, whatever other powers are in scope. -/
@[default_instance 20000]
instance (priority := high) corePower {α : Type} [NatPow α] : Pow α Nat := instPowNat

abbrev Text := List Char

instance : Coe String Text := ⟨String.toList⟩

namespace Text

abbrev Ranges := List (Nat × Nat)

def inRanges (ranges : Ranges) (c : Char) : Bool :=
  ranges.any fun range => range.1 ≤ c.toNat && c.toNat ≤ range.2

def startsWith (s pattern : Text) : Bool :=
  pattern.isPrefixOf s

def contains (pattern : Text) : Text -> Bool
  | [] => pattern.isEmpty
  | c :: rest => pattern.isPrefixOf (c :: rest) || contains pattern rest

/-- Removes each occurrence of `pattern`, from the left and without overlaps; `skip` counts the
characters that still belong to the occurrence last found. -/
def removeFrom (pattern : Text) : Nat -> Text -> Text
  | _, [] => []
  | skip + 1, _ :: rest => removeFrom pattern skip rest
  | 0, c :: rest =>
      if pattern.isPrefixOf (c :: rest) then removeFrom pattern (pattern.length - 1) rest
      else c :: removeFrom pattern 0 rest

def remove (pattern s : Text) : Text :=
  removeFrom pattern 0 s

def decimal (n : Nat) : Text :=
  Nat.toDigits 10 n

def ofInt : Int -> Text
  | .ofNat n => decimal n
  | .negSucc n => '-' :: decimal (n + 1)

/-- At least `width` digits, filled with zeros on the left. -/
def padded (width n : Nat) : Text :=
  List.leftpad width '0' (decimal n)

def isAscii (c : Char) : Bool :=
  c.toNat < 128

def isAsciiDigit (c : Char) : Bool :=
  c.isDigit

def isAsciiLetter (c : Char) : Bool :=
  c.isAlpha

end Text
end SqlPipeline
