import Mathlib.Data.List.Forall2
import SqlPipeline.Json.Reader
import SqlPipeline.Proofs.Text.Decimal

/-!
The grammar of JSON, after RFC 8259, as a relation between texts and the nodes that they denote. The
names of an object are distinct; nesting and the digits of whole numbers have the reader's limits.
-/

namespace SqlPipeline
namespace Json

open Text (AllDigits)

def IsBlank (s : Text) : Prop :=
  ∀ c ∈ s, isSpace c = true

/-- One piece of a string as it may be written. -/
inductive Spells : Text -> Piece -> Prop where
  | plain {c : Char} (visible : ¬c < ' ') (quote : c ≠ '"') (escape : c ≠ '\\') : Spells [c] (.char c)
  | short {c own : Char} (known : shortEscape? c = some own) : Spells ['\\', c] (.char own)
  | numbered {a b c d : Char} {n : Nat} (known : Bytes.hexNumber? [a, b, c, d] = some n) :
      Spells ['\\', 'u', a, b, c, d] (.unit n)

/-- A string with its quotes, and the text that it stands for. -/
inductive Quotes : Text -> Text -> Prop where
  | pieces {spelled : List Text} {pieces : List Piece} (each : List.Forall₂ Spells spelled pieces) :
      Quotes ('"' :: spelled.flatten ++ ['"']) (joined pieces)

/-- A written exponent: its mark, its sign and its digits. -/
structure ExponentText where
  mark : Char
  sign : Text
  digits : Text

namespace ExponentText

def text (exponent : ExponentText) : Text :=
  exponent.mark :: exponent.sign ++ exponent.digits

def value (exponent : ExponentText) : Int :=
  Numeral.signed (exponent.sign = ['-']) ((Text.digits? exponent.digits).getD 0)

structure IsValid (exponent : ExponentText) : Prop where
  mark : exponent.mark = 'e' ∨ exponent.mark = 'E'
  sign : exponent.sign = [] ∨ exponent.sign = ['+'] ∨ exponent.sign = ['-']
  nonempty : exponent.digits ≠ []
  digits : AllDigits exponent.digits

end ExponentText

/-- A written number. A number without a fraction has no point. -/
structure NumberText where
  negative : Bool
  whole : Text
  fraction : Text
  exponent? : Option ExponentText

namespace NumberText

def fractionText (number : NumberText) : Text :=
  if number.fraction = [] then [] else '.' :: number.fraction

def exponentText (number : NumberText) : Text :=
  match number.exponent? with
  | none => []
  | some exponent => exponent.text

def magnitude (number : NumberText) : Text :=
  number.whole ++ (number.fractionText ++ number.exponentText)

def text (number : NumberText) : Text :=
  if number.negative then '-' :: number.magnitude else number.magnitude

/-- The number that is denoted: a whole one, or with a fraction or an exponent a real one. -/
def node (number : NumberText) : Node :=
  match number.fraction, number.exponent? with
  | [], none => .integer (Numeral.signed number.negative ((Text.digits? number.whole).getD 0))
  | fraction, some exponent =>
      .real (Numeral.Scientific.toBinary64 number.negative ⟨number.whole, fraction, exponent.value⟩)
  | fraction, none => .real (Numeral.Scientific.toBinary64 number.negative ⟨number.whole, fraction, 0⟩)

structure IsValid (number : NumberText) : Prop where
  nonempty : number.whole ≠ []
  whole : AllDigits number.whole
  plain : number.whole.head? = some '0' -> number.whole = ['0']
  fraction : AllDigits number.fraction
  exponent : ∀ exponent, number.exponent? = some exponent -> exponent.IsValid
  short : number.fraction = [] -> number.exponent? = none -> number.whole.length ≤ Numeral.longest

end NumberText

/-- A node as it is written between blanks. -/
structure Part where
  before : Text
  text : Text
  after : Text
  node : Node

namespace Part

def whole (part : Part) : Text :=
  part.before ++ (part.text ++ part.after)

def IsPadded (part : Part) : Prop :=
  IsBlank part.before ∧ IsBlank part.after

end Part

/-- A member as it is written: its name between blanks, a colon and its node. -/
structure NamedPart where
  before : Text
  quoted : Text
  name : Text
  after : Text
  part : Part

namespace NamedPart

def whole (member : NamedPart) : Text :=
  member.before ++ (member.quoted ++ (member.after ++ ':' :: member.part.whole))

structure IsPadded (member : NamedPart) : Prop where
  before : IsBlank member.before
  after : IsBlank member.after
  part : member.part.IsPadded

def entry (member : NamedPart) : Text × Node :=
  (member.name, member.part.node)

end NamedPart

/-- A text denotes a node in which arrays and objects are nested no deeper than `room`. -/
inductive Denotes : Nat -> Text -> Node -> Prop where
  | null {room : Nat} : Denotes room "null" .null
  | bool {room : Nat} (b : Bool) : Denotes room (if b then "true" else "false").toList (.bool b)
  | number {room : Nat} {number : NumberText} (valid : number.IsValid) :
      Denotes room number.text number.node
  | text {room : Nat} {written s : Text} (quotes : Quotes written s) : Denotes room written (.text s)
  | emptyArray {room : Nat} {blanks : Text} (blank : IsBlank blanks) :
      Denotes (room + 1) ('[' :: blanks ++ [']']) (.array [])
  | array {room : Nat} {parts : List Part} (nonempty : parts ≠ [])
      (padded : ∀ part ∈ parts, part.IsPadded)
      (each : ∀ part ∈ parts, Denotes room part.text part.node) :
      Denotes (room + 1) ('[' :: List.intercalate [','] (parts.map Part.whole) ++ [']'])
        (.array (parts.map Part.node))
  | emptyObject {room : Nat} {blanks : Text} (blank : IsBlank blanks) :
      Denotes (room + 1) ('\x7b' :: blanks ++ ['\x7d']) (.object [])
  | object {room : Nat} {members : List NamedPart} (nonempty : members ≠ [])
      (padded : ∀ member ∈ members, member.IsPadded)
      (quotes : ∀ member ∈ members, Quotes member.quoted member.name)
      (distinct : (members.map NamedPart.name).Nodup)
      (each : ∀ member ∈ members, Denotes room member.part.text member.part.node) :
      Denotes (room + 1) ('\x7b' :: List.intercalate [','] (members.map NamedPart.whole) ++ ['\x7d'])
        (.object (members.map NamedPart.entry))

/-- A whole document with blanks around it. -/
def IsDocument (s : Text) (document : Node) : Prop :=
  ∃ part : Part, part.IsPadded ∧ s = part.whole ∧ part.node = document ∧
    Denotes deepest part.text part.node

end Json
end SqlPipeline
