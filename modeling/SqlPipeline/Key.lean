import SqlPipeline.Failure

/-!
Keys into a sequence whose items also have names. A key is a position or a name, and positions
below zero count from the end.
-/

namespace SqlPipeline

inductive Key where
  | position (index : Int)
  | name (name : Text)
  deriving DecidableEq, Repr

namespace Position

/-- The position that an index stands for in a sequence of some length. -/
def resolve? (length : Nat) (index : Int) : Option Nat :=
  let position := if index < 0 then index + length else index
  if 0 ≤ position ∧ position < length then some position.toNat else none

/-- Whether an index fits into a signed word of 64 bits. -/
def isInRange (index : Int) : Bool :=
  -2 ^ 63 ≤ index && index < 2 ^ 63

/-- Where to insert: like an index, but held within the sequence. -/
def clamp (length : Nat) (index : Int) : Nat :=
  let position := if index < 0 then index + length else index
  min position.toNat length

def item (items : List α) (index : Int) : Except Fault α :=
  match (resolve? items.length index).bind fun position => items[position]? with
  | some found => .ok found
  | none => .error .badIndex

end Position
end SqlPipeline
