import SqlPipeline.Key
import SqlPipeline.Parameter.Basic

/-!
Parameters in order, found by position or by name. A name counts with or without its leading `@`,
and the first parameter of a name is the one that is found. An entry carries the number of its
parameter, so that one parameter is told from another that looks the same.
-/

namespace SqlPipeline

structure Entry where
  number : Nat
  parameter : Parameter

structure Parameters where
  entries : List Entry

namespace Parameters

def empty : Parameters := ⟨[]⟩

def ofList (parameters : List Parameter) : Parameters :=
  ⟨parameters.zipIdx.map fun (parameter, number) => ⟨number, parameter⟩⟩

def numbers (parameters : Parameters) : List Nat :=
  parameters.entries.map Entry.number

def size (parameters : Parameters) : Nat :=
  parameters.entries.length

def answersTo (name : Text) (entry : Entry) : Bool :=
  Parameter.normalized entry.parameter.name = Parameter.normalized name

/-- The position of the first parameter of a name. -/
def indexOf? (parameters : Parameters) (name : Text) : Option Nat :=
  parameters.entries.findIdx? (answersTo name)

def contains (parameters : Parameters) (name : Text) : Bool :=
  (parameters.indexOf? name).isSome

def find? (parameters : Parameters) (name : Text) : Option Entry :=
  parameters.entries.find? (answersTo name)

def indexOfNumber? (parameters : Parameters) (number : Nat) : Option Nat :=
  parameters.entries.findIdx? fun entry => entry.number = number

def get (parameters : Parameters) : Key -> Except Fault Entry
  | .position index => Position.item parameters.entries index
  | .name name =>
      match parameters.find? name with
      | some entry => .ok entry
      | none => .error (.noParameter name)

def add (parameters : Parameters) (entry : Entry) : Parameters :=
  ⟨parameters.entries ++ [entry]⟩

def extend (parameters : Parameters) (entries : List Entry) : Parameters :=
  ⟨parameters.entries ++ entries⟩

def insert (parameters : Parameters) (index : Int) (entry : Entry) : Except Fault Parameters :=
  if Position.isInRange index then
    .ok ⟨parameters.entries.insertIdx (Position.clamp parameters.size index) entry⟩
  else .error .outOfRange

/-- Replaces a parameter; one of an unknown name is appended. -/
def set (parameters : Parameters) (key : Key) (entry : Entry) : Except Fault Parameters :=
  match key with
  | .position index =>
      match Position.resolve? parameters.size index with
      | some i => .ok ⟨parameters.entries.set i entry⟩
      | none => .error .badIndex
  | .name name =>
      match parameters.indexOf? name with
      | some i => .ok ⟨parameters.entries.set i entry⟩
      | none => .ok (parameters.add entry)

/-- Removes the first entry of a parameter, which must be there. -/
def remove (parameters : Parameters) (number : Nat) : Except Fault Parameters :=
  match parameters.indexOfNumber? number with
  | some i => .ok ⟨parameters.entries.eraseIdx i⟩
  | none => .error .badContent

/-- Removes by position, or by name if the name is there. -/
def removeAt (parameters : Parameters) : Key -> Except Fault Parameters
  | .position index =>
      match Position.resolve? parameters.size index with
      | some i => .ok ⟨parameters.entries.eraseIdx i⟩
      | none => .error .badIndex
  | .name name =>
      match parameters.indexOf? name with
      | some i => .ok ⟨parameters.entries.eraseIdx i⟩
      | none => .ok parameters

end Parameters
end SqlPipeline
