import SqlPipeline.Text.Basic

/-!
Blank characters: the separators of every script together with the control characters that
separate lines and records. A byte order mark and a zero-width space are not blank.
-/

namespace SqlPipeline
namespace Text

def blankRanges : Ranges :=
  [(0x9, 0xd), (0x1c, 0x20), (0x85, 0x85), (0xa0, 0xa0), (0x1680, 0x1680), (0x2000, 0x200a),
   (0x2028, 0x2029), (0x202f, 0x202f), (0x205f, 0x205f), (0x3000, 0x3000)]

def isBlank (c : Char) : Bool :=
  inRanges blankRanges c

def trimStart (s : Text) : Text :=
  s.dropWhile isBlank

def trimEnd (s : Text) : Text :=
  (s.reverse.dropWhile isBlank).reverse

def trim (s : Text) : Text :=
  trimEnd (trimStart s)

/-- What follows a run of at least one blank. -/
def afterBlanks? : Text -> Option Text
  | [] => none
  | c :: rest => if isBlank c then some (trimStart rest) else none

end Text
end SqlPipeline
