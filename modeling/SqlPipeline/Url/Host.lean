import SqlPipeline.Bytes.Basic
import SqlPipeline.DomainName.Basic
import SqlPipeline.Text.LetterCase
import SqlPipeline.Url.Percent

/-!
Hosts of an address: numeric addresses of version 4 or 6, registered names, and names in other
scripts, whose labels are written in ASCII.
-/

namespace SqlPipeline
namespace Url
namespace Host

def isDigits (s : Text) : Bool :=
  !s.isEmpty && s.all Text.isAsciiDigit

/-- Whether a host is four numbers of any size with dots between them. -/
def looksNumeric (host : Text) : Bool :=
  let numbers := List.splitOn '.' host
  numbers.length = 4 && numbers.all isDigits

def digitsValue (digits : Text) : Nat :=
  digits.foldl (fun n c => 10 * n + (c.toNat - '0'.toNat)) 0

/-- A number below 256 without leading zeros. -/
def isOctet (s : Text) : Bool :=
  s.all Text.isAsciiDigit && 1 ≤ s.length && s.length ≤ 3 && (s.length = 1 || s.head? ≠ some '0')
    && digitsValue s < 256

def isVersion4 (s : Text) : Bool :=
  let octets := List.splitOn '.' s
  octets.length = 4 && octets.all isOctet

def isGroup (s : Text) : Bool :=
  1 ≤ s.length && s.length ≤ 4 && s.all fun c => (Bytes.hexValue? c).isSome

/-- Replaces a last part in the form of version 4 by the two groups that it stands for. -/
def expandLast? (parts : List Text) : Option (List Text) :=
  match parts.getLast? with
  | none => none
  | some last =>
      if last.elem '.' then
        if isVersion4 last then some (parts.dropLast ++ [['0'], ['0']]) else none
      else some parts

/-- The groups on one side of a gap; a side that is a lone empty part has none. -/
def sideGroups (parts : List Text) : List Text :=
  if parts = [[]] then [] else parts

/-- Eight groups, or fewer on both sides of a gap. -/
def isGroups (parts : List Text) : Bool :=
  let middle := (parts.drop 1).dropLast
  match middle.findIdx? List.isEmpty with
  | none => parts.length = 8 && parts.all isGroup
  | some i =>
      let groups := sideGroups (parts.take (i + 1)) ++ sideGroups (parts.drop (i + 2))
      !(middle.drop (i + 1)).any List.isEmpty && groups.length ≤ 7 && groups.all isGroup

/-- A zone behind a percent sign, if there is one, is not empty. -/
def isZone : Text -> Bool
  | [] => true
  | _ :: zone => !zone.isEmpty && !zone.elem '%'

def isVersion6 (s : Text) : Bool :=
  let parts := List.splitOn ':' (s.takeWhile (· ≠ '%'))
  !s.elem '/' && isZone (s.dropWhile (· ≠ '%')) && 3 ≤ parts.length
    && match expandLast? parts with
      | none => false
      | some groups => groups.length ≤ 9 && isGroups groups

/-- What stands between brackets around the whole of a text. -/
def bracketed? (s : Text) : Option Text :=
  match s with
  | '[' :: rest => if rest.getLast? = some ']' then some rest.dropLast else none
  | _ => none

/-- The written form of a host, `none` when it is not valid. -/
def ofText? (s : Text) : Option Text :=
  if looksNumeric s then if isVersion4 s then some s else none
  else
    match bracketed? s with
    | some inner => if isVersion6 inner then some inner else none
    | none =>
        if s.all Text.isAscii then some (encode isHostChar (s.map Char.toLower))
        else DomainName.toAscii? (Text.lower s)

end Host
end Url
end SqlPipeline
