import SqlPipeline.Members
import SqlPipeline.Value.Basic

/-!
JSON documents. Whole numbers and real numbers are told apart, and an object keeps its members in
the order in which their names first appear.
-/

namespace SqlPipeline
namespace Json

inductive Node where
  | null
  | bool (b : Bool)
  | integer (n : Int)
  | real (x : Binary64)
  | text (s : Text)
  | array (items : List Node)
  | object (members : List (Text × Node))

namespace Node

instance : Inhabited Node := ⟨null⟩

/-- An object of members as they are written. -/
def ofMembers (members : List (Text × Node)) : Node :=
  object (Members.ofList members)

mutual

def toValue : Node -> Value
  | null => .null
  | bool b => .bool b
  | integer n => .int n
  | real x => .real x
  | text s => .text s
  | array items => .list (toValues items)
  | object members => .dict (toEntries members)

def toValues : List Node -> List Value
  | [] => []
  | node :: rest => toValue node :: toValues rest

def toEntries : List (Text × Node) -> List (Text × Value)
  | [] => []
  | (name, node) :: rest => (name, toValue node) :: toEntries rest

end

end Node
end Json
end SqlPipeline
