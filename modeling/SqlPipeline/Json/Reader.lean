import SqlPipeline.Json.Basic
import SqlPipeline.Number.RealText

/-!
Reading a JSON document. Besides the standard grammar the names of the infinities and of no number
are taken as numbers. A text that starts with a byte order mark is refused; a whole number of too
many digits, and arrays and objects nested too deep, are refused for those reasons.
-/

namespace SqlPipeline
namespace Json

inductive ReadError where
  | malformed
  | tooLong
  | tooDeep
  deriving DecidableEq, Repr

def isSpace (c : Char) : Bool :=
  c = ' ' || c = '\t' || c = '\n' || c = '\r'

def skip (s : Text) : Text :=
  s.dropWhile isSpace

/-- A piece of a string: a character, or a UTF-16 unit that was escaped by its number. -/
inductive Piece where
  | char (c : Char)
  | unit (n : Nat)
  deriving DecidableEq, Repr

def shortEscape? (c : Char) : Option Char :=
  if c = '"' ∨ c = '\\' ∨ c = '/' then some c
  else if c = 'b' then some '\x08'
  else if c = 'f' then some '\x0c'
  else if c = 'n' then some '\n'
  else if c = 'r' then some '\r'
  else if c = 't' then some '\t'
  else none

/-- The pieces of a string up to its closing quote, and the text after it. -/
def pieces? : Text -> Option (List Piece × Text)
  | [] => none
  | '"' :: rest => some ([], rest)
  | '\\' :: 'u' :: a :: b :: c :: d :: rest => do
      let n ← Bytes.hexNumber? [a, b, c, d]
      let (pieces, after) ← pieces? rest
      some (.unit n :: pieces, after)
  | '\\' :: c :: rest => do
      let c ← shortEscape? c
      let (pieces, after) ← pieces? rest
      some (.char c :: pieces, after)
  | c :: rest => do
      if c < ' ' then none
      else
        let (pieces, after) ← pieces? rest
        some (.char c :: pieces, after)

def isHigh (n : Nat) : Bool := 0xd800 ≤ n && n < 0xdc00

def isLow (n : Nat) : Bool := 0xdc00 ≤ n && n < 0xe000

/-- The character of one unit; half a pair alone is replaced. -/
def unitChar (n : Nat) : Char :=
  if isHigh n || isLow n then '\ufffd' else Char.ofNat n

/-- Joins pairs of units. -/
def joined : List Piece -> Text
  | [] => []
  | .unit high :: .unit low :: rest =>
      if isHigh high && isLow low then
        Char.ofNat (0x10000 + (high - 0xd800) * 0x400 + (low - 0xdc00)) :: joined rest
      else unitChar high :: joined (.unit low :: rest)
  | .unit n :: rest => unitChar n :: joined rest
  | .char c :: rest => c :: joined rest

/-- A string after its opening quote. -/
def string? (s : Text) : Option (Text × Text) := do
  let (pieces, rest) ← pieces? s
  some (joined pieces, rest)

def digitRun (s : Text) : Text × Text :=
  (s.takeWhile Text.isAsciiDigit, s.dropWhile Text.isAsciiDigit)

/-- The digits of a whole number, which has no leading zeros. -/
def wholeDigits : Text -> Text × Text
  | '0' :: rest => (['0'], rest)
  | s => digitRun s

/-- A point with at least one digit after it, or nothing. -/
def fractionDigits (s : Text) : Text × Text :=
  match s with
  | '.' :: rest => if (digitRun rest).1.isEmpty then ([], s) else digitRun rest
  | _ => ([], s)

/-- An exponent mark with at least one digit after its sign, or nothing. -/
def exponent? (s : Text) : Option (Int × Text) :=
  match s with
  | [] => none
  | mark :: rest =>
      let (negative, rest) := Numeral.sign rest
      let (digits, rest) := digitRun rest
      if (mark = 'e' ∨ mark = 'E') ∧ !digits.isEmpty then
        some (Numeral.signed negative ((Text.digits? digits).getD 0), rest)
      else none

/-- A number after its sign. -/
def number (negative : Bool) (s : Text) : Except ReadError (Node × Text) :=
  let (whole, s) := wholeDigits s
  let (fraction, s) := fractionDigits s
  if whole.isEmpty then .error .malformed
  else
    match fraction, exponent? s with
    | [], none =>
        if Numeral.longest < whole.length then .error .tooLong
        else .ok (.integer (Numeral.signed negative ((Text.digits? whole).getD 0)), s)
    | fraction, some (exponent, s) =>
        .ok (.real (Numeral.Scientific.toBinary64 negative ⟨whole, fraction, exponent⟩), s)
    | fraction, none => .ok (.real (Numeral.Scientific.toBinary64 negative ⟨whole, fraction, 0⟩), s)

/-- A node that is written as a fixed word. -/
def word? (s : Text) : Option (Node × Text) :=
  if "null".toList.isPrefixOf s then some (.null, s.drop 4)
  else if "true".toList.isPrefixOf s then some (.bool true, s.drop 4)
  else if "false".toList.isPrefixOf s then some (.bool false, s.drop 5)
  else if "NaN".toList.isPrefixOf s then some (.real .nan, s.drop 3)
  else if "Infinity".toList.isPrefixOf s then some (.real (.infinity false), s.drop 8)
  else if "-Infinity".toList.isPrefixOf s then some (.real (.infinity true), s.drop 9)
  else none

def scalar (s : Text) : Except ReadError (Node × Text) :=
  match word? s with
  | some found => .ok found
  | none =>
      match s with
      | '-' :: rest => number true rest
      | s => number false s

/-- A member's name and colon. -/
def memberName? (s : Text) : Option (Text × Text) :=
  match s with
  | '"' :: rest => do
      let (name, rest) ← string? rest
      match skip rest with
      | ':' :: rest => some (name, skip rest)
      | _ => none
  | _ => none

mutual

/-- Reads one node at the start of a text. Every step takes a character, so that the length of the
text bounds their number; `room` is how much deeper arrays and objects may go. -/
def node : Nat -> Nat -> Text -> Except ReadError (Node × Text)
  | 0, _, _ => .error .malformed
  | _ + 1, _, '"' :: rest =>
      match string? rest with
      | some (s, rest) => .ok (.text s, rest)
      | none => .error .malformed
  | _ + 1, 0, '[' :: _ => .error .tooDeep
  | _ + 1, 0, '\x7b' :: _ => .error .tooDeep
  | fuel + 1, room + 1, '[' :: rest =>
      match skip rest with
      | ']' :: rest => .ok (.array [], rest)
      | rest =>
          match items fuel room rest with
          | .ok (nodes, rest) => .ok (.array nodes, rest)
          | .error e => .error e
  | fuel + 1, room + 1, '\x7b' :: rest =>
      match skip rest with
      | '\x7d' :: rest => .ok (.object [], rest)
      | rest =>
          match members fuel room rest with
          | .ok (entries, rest) => .ok (.ofMembers entries, rest)
          | .error e => .error e
  | _ + 1, _, s => scalar s

/-- One or more nodes up to the closing bracket. -/
def items : Nat -> Nat -> Text -> Except ReadError (List Node × Text)
  | 0, _, _ => .error .malformed
  | fuel + 1, room, s =>
      match node fuel room s with
      | .error e => .error e
      | .ok (first, rest) =>
          match skip rest with
          | ']' :: rest => .ok ([first], rest)
          | ',' :: rest =>
              match items fuel room (skip rest) with
              | .ok (later, rest) => .ok (first :: later, rest)
              | .error e => .error e
          | _ => .error .malformed

/-- One or more members up to the closing brace. -/
def members : Nat -> Nat -> Text -> Except ReadError (List (Text × Node) × Text)
  | 0, _, _ => .error .malformed
  | fuel + 1, room, s =>
      match memberName? s with
      | none => .error .malformed
      | some (name, rest) =>
          match node fuel room rest with
          | .error e => .error e
          | .ok (first, rest) =>
              match skip rest with
              | '\x7d' :: rest => .ok ([(name, first)], rest)
              | ',' :: rest =>
                  match members fuel room (skip rest) with
                  | .ok (later, rest) => .ok ((name, first) :: later, rest)
                  | .error e => .error e
              | _ => .error .malformed

end

def startsWithMark (s : Text) : Bool :=
  s.head? = some '\ufeff'

/-- How deep arrays and objects may be nested. -/
def deepest : Nat := 985

/-- Reads the whole of a text as one document. -/
def read (s : Text) : Except ReadError Node :=
  if startsWithMark s then .error .malformed
  else
    match node (2 * s.length + 2) deepest (skip s) with
    | .error e => .error e
    | .ok (document, rest) => if (skip rest).isEmpty then .ok document else .error .malformed

end Json
end SqlPipeline
