import SqlPipeline.Json.Basic
import SqlPipeline.Number.Shortest

/-!
Writing a JSON document without blanks. Quotes, backslashes and control characters are escaped, all
other characters are written as they are.
-/

namespace SqlPipeline
namespace Json

/-- Numbers are written positionally from `0.00001` to below `10 ^ 16`; what is no finite number is
written as null. -/
def realLayout : Binary64.Layout := ⟨-5, 1, "null", "null", "null"⟩

def escape (c : Char) : Text :=
  if c = '"' ∨ c = '\\' then ['\\', c]
  else if c = '\x08' then ['\\', 'b']
  else if c = '\t' then ['\\', 't']
  else if c = '\n' then ['\\', 'n']
  else if c = '\x0c' then ['\\', 'f']
  else if c = '\r' then ['\\', 'r']
  else if c < ' ' then '\\' :: 'u' :: Bytes.hexDigits 4 c.toNat
  else [c]

def string (s : Text) : Text :=
  '"' :: s.flatMap escape ++ ['"']

mutual

def render : Node -> Text
  | .null => "null"
  | .bool b => (if b then "true" else "false").toList
  | .integer n => Text.ofInt n
  | .real x => realLayout.text x
  | .text s => string s
  | .array nodes => '[' :: List.intercalate [','] (renderItems nodes) ++ [']']
  | .object members => '\x7b' :: List.intercalate [','] (renderMembers members) ++ ['\x7d']

def renderItems : List Node -> List Text
  | [] => []
  | node :: rest => render node :: renderItems rest

def renderMembers : List (Text × Node) -> List Text
  | [] => []
  | (name, node) :: rest => (string name ++ ':' :: render node) :: renderMembers rest

end

end Json
end SqlPipeline
