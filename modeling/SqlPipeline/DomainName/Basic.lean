import SqlPipeline.DomainName.Composed
import SqlPipeline.DomainName.Context
import SqlPipeline.DomainName.Direction
import SqlPipeline.DomainName.Punycode

/-!
Domain names with labels in any script, and their form in ASCII. A label in ASCII stays as it is,
and one that starts with `xn--` has to be the ASCII form of some sound label.
-/

namespace SqlPipeline
namespace DomainName

/-- A hyphen stands neither at an end nor twice behind the second character. -/
def hasSoundHyphens (s : Text) : Bool :=
  s.head? ≠ some '-' && s.getLast? ≠ some '-' && (s.drop 2).take 2 ≠ ['-', '-']

/-- Whether a label, as it is spelled in its script, can be part of a name. -/
def isSound (label : Text) : Bool :=
  !label.isEmpty && hasSoundHyphens label && !label.head?.any isMark && allAllowed label
    && isComposed label && hasSoundDirection label

def codedMark : Text := "xn--"

def isSoundAscii (label : Text) : Bool :=
  if codedMark.isPrefixOf label then
    let coded := label.drop codedMark.length
    !coded.isEmpty && coded.getLast? ≠ some '-' && (Punycode.decode? coded).any isSound
  else isSound label

def longestLabel : Nat := 63

def label? (label : Text) : Option Text :=
  let isAscii := label.all Text.isAscii
  let written := if isAscii then label else codedMark ++ Punycode.encode label
  if (if isAscii then isSoundAscii label else isSound label) && written.length ≤ longestLabel then
    some written
  else none

def isDot (c : Char) : Bool :=
  c = '.' || c = '\u3002' || c = '\uff0e' || c = '\uff61'

def longest : Nat := 253

/-- The ASCII form of a name in small letters. A dot may follow the last label, and does not count
for the length. -/
def toAscii? (name : Text) : Option Text := do
  let parts := List.splitOn '.' (name.map fun c => if isDot c then '.' else c)
  let isEnded := parts.getLast? = some []
  let labels := if isEnded then parts.dropLast else parts
  let written := List.intercalate ['.'] (← labels.mapM label?)
  if labels.isEmpty || longest < written.length then none
  else some (if isEnded then written ++ ['.'] else written)

end DomainName
end SqlPipeline
