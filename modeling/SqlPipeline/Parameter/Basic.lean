import SqlPipeline.Wire.Argument

/-!
A parameter has a name, a value, a type and a size. The type is inferred from the value until it is
set. The size follows text and bytes that are assigned until it is set, and stays as it is when
another value is assigned.
-/

namespace SqlPipeline

structure Parameter where
  name : Text
  value : Value
  type? : Option DbType
  size : Int
  sizeIsSet : Bool

namespace Parameter

def setValue (parameter : Parameter) (value : Value) : Parameter :=
  { parameter with
    value := value
    size := if !parameter.sizeIsSet && value.isSized then value.size else parameter.size }

def setSize (parameter : Parameter) (size : Int) : Parameter :=
  { parameter with size := size, sizeIsSet := true }

def setType (parameter : Parameter) (type : DbType) : Parameter :=
  { parameter with type? := some type }

/-- Sets a type given by name, which must be a known one. -/
def setTypeName (parameter : Parameter) (name : Text) : Except Fault Parameter :=
  match DbType.ofName? name with
  | some type => .ok (parameter.setType type)
  | none => .error .badContent

/-- Forgets the type and the size that were set. -/
def reset (parameter : Parameter) : Parameter :=
  { parameter with type? := none, size := parameter.value.size, sizeIsSet := false }

def make (name? : Option Text) (value : Value) (type? : Option DbType) (size? : Option Int) :
    Parameter :=
  let blank : Parameter := ⟨name?.getD [], .null, type?, 0, false⟩
  let sized := match size? with
    | some size => blank.setSize size
    | none => blank
  sized.setValue value

def type (parameter : Parameter) : DbType :=
  parameter.type?.getD (DbType.infer parameter.value)

def encode (parameter : Parameter) : Outcome Wire.Argument :=
  Wire.encode (some parameter.name) parameter.type parameter.value

def inspect? (parameter : Parameter) : Option Text := do
  let value ← parameter.value.inspect?
  some ("Parameter(name=" ++ Text.quoted parameter.name ++ ", value=" ++ value ++ ", db_type="
    ++ parameter.type.name ++ ")")

/-- A name with its leading `@`. -/
def normalized (name : Text) : Text :=
  if name.head? = some '@' then name else '@' :: name

end Parameter
end SqlPipeline
