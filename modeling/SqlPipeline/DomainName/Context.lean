import SqlPipeline.DomainName.Joining
import SqlPipeline.DomainName.Permitted
import SqlPipeline.DomainName.Script

/-!
Characters that may stand only beside certain others: the two joiners, the middle dots, the Greek
numeral sign, two Hebrew marks, and the two kinds of Arabic digits.
-/

namespace SqlPipeline
namespace DomainName

def isArabicDigit (c : Char) : Bool :=
  '\u0660' ≤ c && c ≤ '\u0669'

def isEasternDigit (c : Char) : Bool :=
  '\u06f0' ≤ c && c ≤ '\u06f9'

/-- A mark before the character that takes the vowel from a consonant. -/
def followsVirama (before : Text) : Bool :=
  before.head?.any isVirama

/-- Whether a character may stand between the characters `before` it, nearest first, and those
`after` it. -/
def isAllowed (before after : Text) (c : Char) : Bool :=
  if isPermitted c then true
  else if c = '\u200c' then
    followsVirama before || (reaches joinsOnLeft before && reaches joinsOnRight after)
  else if c = '\u200d' then followsVirama before
  else if c = '\u00b7' then before.head? = some 'l' && after.head? = some 'l'
  else if c = '\u0375' then after.head?.any isGreek
  else if c = '\u05f3' ∨ c = '\u05f4' then before.head?.any isHebrew
  else if c = '\u30fb' then (before ++ after).any isJapanese
  else if isArabicDigit c then !(before ++ after).any isEasternDigit
  else if isEasternDigit c then !(before ++ after).any isArabicDigit
  else false

def allAllowedFrom (before : Text) : Text -> Bool
  | [] => true
  | c :: rest => isAllowed before rest c && allAllowedFrom (c :: before) rest

def allAllowed (s : Text) : Bool :=
  allAllowedFrom [] s

end DomainName
end SqlPipeline
