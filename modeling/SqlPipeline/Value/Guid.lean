import SqlPipeline.Bytes.Utf8
import SqlPipeline.Failure

/-!
The identifier that a stored value stands for: identifier text in any letter case, the binary form
of 16 bytes, or bytes that spell such text. Empty text is the identifier zero.
-/

namespace SqlPipeline
namespace Value

def uuidOfText (s : Text) : Except Fault Uuid :=
  if s.isEmpty then .ok Uuid.zero
  else
    match Uuid.ofText? s with
    | some found => .ok found
    | none => .error .badContent

def uuidOfBytes (bytes : Bytes) : Except Fault Uuid :=
  match Uuid.ofBytes? bytes with
  | some found => .ok found
  | none =>
      match Utf8.decode? bytes with
      | some s => uuidOfText s
      | none => .error .undecodable

def toUuid : Value -> Except Fault Uuid
  | uuid u => .ok u
  | text s => uuidOfText s
  | binary .fixed bytes => uuidOfBytes bytes
  | binary .growable bytes => uuidOfBytes bytes
  | value => .error (.badGuid value.typeName)

end Value
end SqlPipeline
