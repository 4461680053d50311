import SqlPipeline.Text.Basic

/-!
Punycode writes a label in ASCII. The ASCII characters stand first, with a hyphen behind them. Each
other character is an insertion into the text that is there so far: the insertions are in the order
of code points, and each is written as its distance from the one before it, counted over all places
of all code points between the two. Distances have digits whose thresholds adapt to the distances
before them. Reading and writing go through the same states.
-/

namespace SqlPipeline
namespace DomainName
namespace Punycode

/-- A character put into the text of the characters that were there before it. -/
structure Insertion where
  code : Nat
  position : Nat
  deriving DecidableEq, Repr

/-- What is known before an insertion: the least code point and place it can have, the length of
the text, and the bias of the thresholds. -/
structure State where
  code : Nat
  next : Nat
  length : Nat
  bias : Nat
  isFirst : Bool
  deriving DecidableEq, Repr

namespace State

def start (length : Nat) : State :=
  ⟨128, 0, length, 72, true⟩

/-- The steps by which a distance of at most 455 is reached, and that distance. -/
def scaled (distance steps : Nat) : Nat × Nat :=
  if 455 < distance then scaled (distance / 35) (steps + 36) else (distance, steps)
termination_by distance
decreasing_by exact Nat.div_lt_self (by omega) (by omega)

/-- The bias after a distance; `length` counts the character that was inserted. -/
def adaptedBias (distance length : Nat) (isFirst : Bool) : Nat :=
  let damped := distance / (if isFirst then 700 else 2)
  let (rest, steps) := scaled (damped + damped / length) 0
  steps + 36 * rest / (rest + 38)

/-- How many places lie between a state and an insertion. -/
def distance (state : State) (insertion : Insertion) : Nat :=
  (insertion.code - state.code) * (state.length + 1) + insertion.position - state.next

/-- The insertion at a distance. -/
def insertion (state : State) (distance : Nat) : Insertion :=
  let place := state.next + distance
  ⟨state.code + place / (state.length + 1), place % (state.length + 1)⟩

def after (state : State) (insertion : Insertion) : State :=
  { code := insertion.code
    next := insertion.position + 1
    length := state.length + 1
    bias := adaptedBias (state.distance insertion) (state.length + 1) state.isFirst
    isFirst := false }

/-- The threshold of a digit, whose place is counted in steps of 36. A digit below its threshold is
the last one of its number. -/
def threshold (state : State) (place : Nat) : Nat :=
  min 26 (max 1 (place - state.bias))

theorem threshold_pos (state : State) (place : Nat) : 0 < state.threshold place := by
  unfold threshold
  omega

end State

def digit (n : Nat) : Char :=
  if n < 26 then Char.ofNat ('a'.toNat + n) else Char.ofNat ('0'.toNat + (n - 26))

def digitValue? (c : Char) : Option Nat :=
  if 'a' ≤ c ∧ c ≤ 'z' then some (c.toNat - 'a'.toNat)
  else if Text.isAsciiDigit c then some (26 + (c.toNat - '0'.toNat))
  else none

/-- The digits of a distance from a place on, the least significant one first. -/
def digits (state : State) (place n : Nat) : Text :=
  let t := state.threshold place
  if n < t then [digit n]
  else digit (t + (n - t) % (36 - t)) :: digits state (place + 36) ((n - t) / (36 - t))
termination_by n
decreasing_by
  have positive := state.threshold_pos place
  exact Nat.lt_of_le_of_lt (Nat.div_le_self _ _) (by omega)

/-- The insertions of a text, from left to right; `before` are the characters passed already. An
insertion has those of them before it that are inserted no later than itself. -/
def insertionsFrom (before : List Nat) : Text -> List Insertion
  | [] => []
  | c :: rest =>
      let later := insertionsFrom (c.toNat :: before) rest
      if Text.isAscii c then later else ⟨c.toNat, before.countP (· ≤ c.toNat)⟩ :: later

/-- The insertions of a text in the order in which they are made. -/
def insertions (s : Text) : List Insertion :=
  (insertionsFrom [] s).mergeSort fun a b => a.code ≤ b.code

def write (state : State) : List Insertion -> Text
  | [] => []
  | insertion :: later =>
      digits state 36 (state.distance insertion) ++ write (state.after insertion) later

def encode (s : Text) : Text :=
  let ascii := s.filter Text.isAscii
  (if ascii.isEmpty then [] else ascii ++ ['-']) ++ write (.start ascii.length) (insertions s)

/-- A distance of which the digits before `place` have been read. -/
structure Pending where
  place : Nat
  weight : Nat
  sum : Nat
  deriving DecidableEq, Repr

def Pending.none : Pending := ⟨36, 1, 0⟩

def insert? (s : Text) (insertion : Insertion) : Option Text :=
  if insertion.code.isValidChar then
    some (s.insertIdx insertion.position (Char.ofNat insertion.code))
  else none

/-- Makes the insertions that the digits stand for; the last number has to be complete. -/
def read? (state : State) (pending : Pending) (s : Text) : Text -> Option Text
  | [] => if pending = .none then some s else none
  | c :: rest => do
      let value ← digitValue? c
      let t := state.threshold pending.place
      let sum := pending.sum + value * pending.weight
      if value < t then
        let insertion := state.insertion sum
        read? (state.after insertion) .none (← insert? s insertion) rest
      else read? state ⟨pending.place + 36, pending.weight * (36 - t), sum⟩ s rest

/-- The part before the last hyphen, and the digits behind it. -/
def parts (s : Text) : Text × Text :=
  (((s.reverse.dropWhile (· ≠ '-')).drop 1).reverse, (s.reverse.takeWhile (· ≠ '-')).reverse)

def decode? (s : Text) : Option Text :=
  read? (.start (parts s).1.length) .none (parts s).1 (parts s).2

end Punycode
end DomainName
end SqlPipeline
