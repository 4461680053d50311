import SqlPipeline.Wire.LaxInteger

/-!
Responses as they are received. A document is taken for a response when every member that is known
has its type; members that are not known are passed over, and the cells of rows may be anything.
-/

namespace SqlPipeline
namespace Wire

open Json (Node)

structure ColumnInfo where
  name? : Option Text
  declared? : Option Text
  deriving DecidableEq, Repr

structure StatementResult where
  columns : List ColumnInfo
  rows : List (List Value)
  affected : Int
  rowId? : Option Text

namespace StatementResult

/-- The first cell of the first row, null when there is none. -/
def firstCell (result : StatementResult) : Value :=
  match result.rows with
  | (cell :: _) :: _ => cell
  | _ => .null

end StatementResult

structure StreamResponse where
  type : Text
  result? : Option StatementResult

structure StreamError where
  message : Text
  code? : Option Text
  deriving DecidableEq, Repr

structure ResponseEntry where
  type? : Option Text
  response? : Option StreamResponse
  error? : Option StreamError

namespace ResponseEntry

def isError (entry : ResponseEntry) : Bool :=
  entry.type? = some "error".toList || entry.error?.isSome

def isClose (entry : ResponseEntry) : Bool :=
  entry.response?.any fun response => response.type = "close".toList

/-- The result of a statement that was executed. -/
def result? (entry : ResponseEntry) : Option StatementResult := do
  let response ← entry.response?
  if response.type = "execute".toList then response.result? else none

end ResponseEntry

structure Response where
  baton? : Option Text
  baseUrl? : Option Text
  entries : List ResponseEntry

/-- An optional member: missing and null read as none. -/
def optional? (read : Node -> Option α) (name : Text) (members : List (Text × Node)) :
    Option (Option α) :=
  match Members.lookup name members with
  | none => some none
  | some .null => some none
  | some node => (read node).map some

/-- A member with a default for when it is missing; null is refused. -/
def orDefault? (read : Node -> Option α) (default : α) (name : Text)
    (members : List (Text × Node)) : Option α :=
  match Members.lookup name members with
  | none => some default
  | some node => read node

def textOf? : Node -> Option Text
  | .text s => some s
  | _ => none

def itemsOf? : Node -> Option (List Node)
  | .array nodes => some nodes
  | _ => none

def listOf? (read : Node -> Option α) (node : Node) : Option (List α) := do
  (← itemsOf? node).mapM read

def columnOf? : Node -> Option ColumnInfo
  | .object members => do
      some ⟨← optional? textOf? "name" members, ← optional? textOf? "decltype" members⟩
  | _ => none

def rowOf? (node : Node) : Option (List Value) :=
  (itemsOf? node).map fun nodes => nodes.map Node.toValue

def resultOf? : Node -> Option StatementResult
  | .object members => do
      some {
        columns := ← orDefault? (listOf? columnOf?) [] "cols" members
        rows := ← orDefault? (listOf? rowOf?) [] "rows" members
        affected := ← orDefault? LaxInteger.ofJson? 0 "affected_row_count" members
        rowId? := ← optional? textOf? "last_insert_rowid" members }
  | _ => none

def streamResponseOf? : Node -> Option StreamResponse
  | .object members => do
      some ⟨← (Members.lookup "type" members).bind textOf?, ← optional? resultOf? "result" members⟩
  | _ => none

def streamErrorOf? : Node -> Option StreamError
  | .object members => do
      some ⟨← orDefault? textOf? [] "message" members, ← optional? textOf? "code" members⟩
  | _ => none

def entryOf? : Node -> Option ResponseEntry
  | .object members => do
      some {
        type? := ← optional? textOf? "type" members
        response? := ← optional? streamResponseOf? "response" members
        error? := ← optional? streamErrorOf? "error" members }
  | _ => none

def Response.ofJson? : Node -> Option Response
  | .object members => do
      some {
        baton? := ← optional? textOf? "baton" members
        baseUrl? := ← optional? textOf? "base_url" members
        entries := ← (Members.lookup "results" members).bind (listOf? entryOf?) }
  | _ => none

end Wire
end SqlPipeline
