import SqlPipeline.Text.Blank

/-!
Matching keywords without regard to letter case. Besides the two ASCII cases a letter also accepts
the characters of other scripts that fold to it: the dotted and the dotless i, the long s and the
Kelvin sign.
-/

namespace SqlPipeline
namespace Sql

def foldLetter (c : Char) : Char :=
  if c = 'İ' ∨ c = 'ı' then 'i'
  else if c = 'ſ' then 's'
  else if c = '\u212a' then 'k'
  else c.toLower

/-- The text after a keyword, given in small letters, at the start of a text. -/
def afterKeyword? : Text -> Text -> Option Text
  | [], s => some s
  | _ :: _, [] => none
  | letter :: letters, c :: rest =>
      if foldLetter c = letter then afterKeyword? letters rest else none

def afterChar? (mark : Char) : Text -> Option Text
  | [] => none
  | c :: rest => if c = mark then some rest else none

end Sql
end SqlPipeline
