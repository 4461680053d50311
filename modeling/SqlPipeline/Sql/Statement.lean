import SqlPipeline.Sql.Quoting
import SqlPipeline.Text.Blank
import SqlPipeline.Text.LetterCase

/-!
A script is cut into statements at each semicolon outside quotes. Statements are classified by
keyword, either by the word they start with or by the first of the keywords they mention at all.
-/

namespace SqlPipeline
namespace Sql

/-- The piece up to and with the first unquoted semicolon, and the pieces after it. The last piece
has no semicolon and may be empty. -/
def cutFrom : Quoting -> Text -> Text × List Text
  | _, [] => ([], [])
  | quoting, c :: rest =>
      let later := cutFrom (quoting.step c) rest
      if c = ';' ∧ quoting = .bare then ([c], later.1 :: later.2) else (c :: later.1, later.2)

def pieces (sql : Text) : List Text :=
  (cutFrom .bare sql).1 :: (cutFrom .bare sql).2

theorem cutFrom_flatten (quoting : Quoting) (sql : Text) :
    (cutFrom quoting sql).1 ++ (cutFrom quoting sql).2.flatten = sql := by
  induction sql generalizing quoting with
  | nil => rfl
  | cons c rest rest_flatten =>
      simp only [cutFrom]
      split <;> simp [rest_flatten]

theorem pieces_flatten (sql : Text) : (pieces sql).flatten = sql := by
  simp [pieces, cutFrom_flatten]

def isVoid (statement : Text) : Bool :=
  statement = [] || statement = [';']

/-- The statements of a script, trimmed, each with its semicolon; void pieces are left out. -/
def split (sql : Text) : List Text :=
  ((pieces sql).map Text.trim).filter fun statement => !isVoid statement

inductive Operation where
  | insert
  | update
  | delete
  | other
  deriving DecidableEq, Repr

namespace Operation

def keyword : Operation -> Text
  | insert => "INSERT"
  | update => "UPDATE"
  | delete => "DELETE"
  | other => "OTHER"

/-- The keywords in the order in which they are looked for. -/
def searched : List Operation :=
  [update, insert, delete]

/-- An operation that changes or removes rows that exist. -/
def modifies (operation : Operation) : Bool :=
  operation = update || operation = delete

end Operation

/-- Whether a keyword counts at the start of a statement only, or anywhere in it. -/
inductive Policy where
  | atStart
  | anywhere
  deriving DecidableEq, Repr

def Policy.finds : Policy -> Text -> Text -> Bool
  | atStart, keyword, text => text.startsWith keyword
  | anywhere, keyword, text => Text.contains keyword text

def classify (policy : Policy) (sql : Text) : Operation :=
  let text := Text.upper (Text.trimStart sql)
  (Operation.searched.find? fun operation => policy.finds operation.keyword text).getD .other

end Sql
end SqlPipeline
