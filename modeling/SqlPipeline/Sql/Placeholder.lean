import SqlPipeline.Sql.Quoting
import SqlPipeline.Text.Digit
import SqlPipeline.Text.Word

/-!
Placeholders. A text is read as fragments: a placeholder is an unquoted `@` with a name after it,
everything else is literal. Numbering replaces each name by its position in the order of first
appearance. Facade texts write a bare `?` for each parameter; these become names that count up from
zero.
-/

namespace SqlPipeline
namespace Sql

inductive Fragment where
  | literal (c : Char)
  | placeholder (name : Text)
  deriving DecidableEq, Repr

namespace Fragment

def text : Fragment -> Text
  | literal c => [c]
  | placeholder name => name

def name? : Fragment -> Option Text
  | literal _ => none
  | placeholder name => some name

end Fragment

def fragmentsFrom (quoting : Quoting) : Text -> List Fragment
  | [] => []
  | c :: rest =>
      let name := rest.takeWhile Text.isAsciiWordChar
      if c = '@' ∧ quoting = .bare ∧ name ≠ [] then
        .placeholder ('@' :: name) :: fragmentsFrom quoting (rest.dropWhile Text.isAsciiWordChar)
      else
        .literal c :: fragmentsFrom (quoting.step c) rest
termination_by sql => sql.length
decreasing_by
  · exact Nat.lt_succ_of_le (List.dropWhile_suffix _).length_le
  · exact Nat.lt_succ_self _

def fragments (sql : Text) : List Fragment :=
  fragmentsFrom .bare sql

theorem fragmentsFrom_text (quoting : Quoting) (sql : Text) :
    (fragmentsFrom quoting sql).flatMap Fragment.text = sql := by
  fun_induction fragmentsFrom quoting sql with
  | case1 => rfl
  | case2 quoting c rest name found later_text =>
      simp [Fragment.text, later_text, found.1, name, List.takeWhile_append_dropWhile]
  | case3 quoting c rest name found later_text =>
      simp [Fragment.text, later_text]

/-- The distinct names in order of first appearance. -/
def names (fragments : List Fragment) : List Text :=
  (fragments.filterMap Fragment.name?).eraseDups

def positional (names : List Text) : Fragment -> Text
  | .literal c => [c]
  | .placeholder name => '?' :: Text.decimal (names.idxOf name + 1)

/-- A text whose placeholders are positions, and the names that the positions stand for. -/
structure Numbered where
  sql : Text
  names : List Text
  deriving DecidableEq, Repr

def number (sql : Text) : Numbered :=
  let found := names (fragments sql)
  ⟨(fragments sql).flatMap (positional found), found⟩

def facadeName (index : Nat) : Text :=
  "@p" ++ Text.decimal index

/-- Names each bare `?`, that is one without a digit after it, wherever it stands. -/
def nameFrom : Nat -> Text -> Text
  | _, [] => []
  | index, c :: rest =>
      if c = '?' && !Text.startsWithDigit rest then facadeName index ++ nameFrom (index + 1) rest
      else c :: nameFrom index rest

def nameBare (sql : Text) : Text :=
  nameFrom 0 sql

end Sql
end SqlPipeline
