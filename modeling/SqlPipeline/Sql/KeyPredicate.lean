import SqlPipeline.Sql.Keyword
import SqlPipeline.Text.Word

/-!
The predicate of a keyed statement: the column `"Id"` compared with a placeholder, and optionally
a second column, the concurrency token, compared with another one.
-/

namespace SqlPipeline
namespace Sql

structure TokenPredicate where
  column : Text
  placeholder : Text
  deriving DecidableEq, Repr

structure KeyPredicate where
  key : Text
  token? : Option TokenPredicate
  deriving DecidableEq, Repr

namespace KeyPredicate

/-- A nonempty run of word characters and the text after it. -/
def word? (s : Text) : Option (Text × Text) :=
  let word := s.takeWhile Text.isWordChar
  if word.isEmpty then none else some (word, s.dropWhile Text.isWordChar)

def placeholder? (s : Text) : Option (Text × Text) := do
  let s ← afterChar? '@' s
  let (word, s) ← word? s
  some ('@' :: word, s)

/-- A comparison with a placeholder, from the equals sign on. -/
def comparison? (s : Text) : Option (Text × Text) := do
  let s ← afterChar? '=' (Text.trimStart s)
  placeholder? (Text.trimStart s)

def tokenClause? (s : Text) : Option TokenPredicate := do
  let s ← Text.afterBlanks? s
  let s ← afterKeyword? "and" s
  let s ← Text.afterBlanks? s
  let s ← afterChar? '"' s
  let (column, s) ← word? s
  let s ← afterChar? '"' s
  let (placeholder, _) ← comparison? s
  some ⟨column, placeholder⟩

def match? (s : Text) : Option KeyPredicate := do
  let s ← afterKeyword? "where" s
  let s ← Text.afterBlanks? s
  let s ← afterKeyword? "\"id\"" s
  let (key, s) ← comparison? s
  some ⟨key, tokenClause? s⟩

/-- The first predicate in a text. -/
def find? : Text -> Option KeyPredicate
  | [] => none
  | c :: rest => (match? (c :: rest)).or (find? rest)

end KeyPredicate
end Sql
end SqlPipeline
