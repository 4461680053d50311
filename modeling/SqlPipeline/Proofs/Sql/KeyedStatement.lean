import SqlPipeline.Proofs.Sql.KeyPredicate
import SqlPipeline.Proofs.Sql.TableName

/-!
Statements that give their row by key, written out: a command, a table, assignments if there are
any, the predicate of the key, a token if there is one, and a semicolon or none. Keywords stand in
any letter case and blanks in any number. Of every such statement the predicate and the table that
are found are those that it is written with.
-/

namespace SqlPipeline
namespace Sql

/-- A comparison with a placeholder. -/
structure Comparison where
  before : Blanks
  after : Blanks
  name : Text
  nonempty : name ≠ []
  ascii : ∀ c ∈ name, Text.isAsciiWordChar c = true

/-- Assignments whose text holds the letters of WHERE nowhere. -/
structure Assignments where
  keyword : Cased "set"
  before : Gap
  list : Text
  after : Gap
  silent : ¬Mentions "where" list

structure TokenClause where
  before : Gap
  conjunction : Cased "and"
  after : Gap
  column : Text
  word : IsWord column
  comparison : Comparison

structure KeyedStatement where
  command : TableName.Command
  commandGap : Gap
  table : TableName.Reference
  silent : ¬Mentions "where" table.written
  tableGap : Gap
  assignments? : Option Assignments
  opening : Cased "where"
  openingGap : Gap
  key : Comparison
  token? : Option TokenClause
  ending : Blanks
  isEnded : Bool

namespace Comparison

def written (comparison : Comparison) : Text :=
  comparison.before.text ++ '=' :: (comparison.after.text ++ '@' :: comparison.name)

def placeholder (comparison : Comparison) : Text :=
  '@' :: comparison.name

theorem compares (comparison : Comparison) {rest : Text} (stop : EndsWord rest) :
    KeyPredicate.Compares (comparison.written ++ rest) comparison.placeholder rest := by
  have word : IsWord comparison.name :=
    ⟨comparison.nonempty, fun c member => word_of_ascii (comparison.ascii c member)⟩
  have whole : comparison.written ++ rest =
      comparison.before.text ++
        '=' :: (comparison.after.text ++ '@' :: (comparison.name ++ rest)) := by
    simp [written]
  rw [whole]
  exact .intro comparison.before.blank comparison.after.blank word stop

end Comparison

namespace KeyedStatement

variable (statement : KeyedStatement)

def assignmentsText : Text :=
  match statement.assignments? with
  | none => []
  | some assignments =>
      assignments.keyword.text ++
        (assignments.before.text ++ (assignments.list ++ assignments.after.text))

def tokenText : Text :=
  match statement.token? with
  | none => []
  | some token =>
      token.before.text ++ (token.conjunction.text ++
        (token.after.text ++ '"' :: (token.column ++ '"' :: token.comparison.written)))

def endingText : Text :=
  statement.ending.text ++ if statement.isEnded then [';'] else []

def predicateText : Text :=
  statement.opening.text ++ (statement.openingGap.text ++
    ("\"Id\"".toList ++ (statement.key.written ++ (statement.tokenText ++ statement.endingText))))

def text : Text :=
  statement.command.written ++ (statement.commandGap.text ++ (statement.table.written ++
    (statement.tableGap.text ++ (statement.assignmentsText ++ statement.predicateText))))

def predicate : KeyPredicate :=
  ⟨statement.key.placeholder,
    statement.token?.map fun token => ⟨token.column, token.comparison.placeholder⟩⟩

/-- The table with each of its names between double quotes. -/
def quotedTable : Text :=
  List.intercalate "." (statement.table.names.map TableName.enclosed)

section Predicate

theorem ending_solid : IsSolid (if statement.isEnded then [';'] else []) := by
  cases statement.isEnded <;> decide

theorem ending_stops : EndsWord statement.endingText := by
  apply blanks_end_word statement.ending.blank
  cases statement.isEnded with
  | false => exact fun c head => nomatch head
  | true => exact mark_ends_word (by decide +kernel) []

theorem token_stops : EndsWord (statement.tokenText ++ statement.endingText) := by
  rw [tokenText]
  cases statement.token? with
  | none => exact statement.ending_stops
  | some token =>
      rw [List.append_assoc]
      exact gap_ends_word token.before.blank _

theorem no_token_clause : KeyPredicate.tokenClause? statement.endingText = none := by
  rw [Option.eq_none_iff_forall_ne_some]
  intro token found
  generalize whole : statement.endingText = s at found
  obtain ⟨left, spelled, _, _, _⟩ := KeyPredicate.token_clause_iff.mp found
  have first := trim_start_iff.mpr
    ⟨_, left.2, whole, keyword_solid spelled (by decide) (by decide) _⟩
  have second : Text.trimStart statement.endingText = if statement.isEnded then [';'] else [] :=
    trim_start_iff.mpr ⟨_, statement.ending.blank, rfl, statement.ending_solid⟩
  have letter : (if statement.isEnded then [';'] else []).head?.map foldLetter =
      "and".toList.head? := by
    rw [← second, first]
    exact keyword_head spelled (by decide) _
  revert letter
  cases statement.isEnded <;> decide

theorem token_found :
    KeyPredicate.tokenClause? (statement.tokenText ++ statement.endingText) =
      statement.predicate.token? := by
  rw [tokenText, predicate]
  cases statement.token? with
  | none => exact statement.no_token_clause
  | some token =>
      apply KeyPredicate.token_clause_iff.mpr
      have clause := KeyPredicate.IsTokenClause.intro token.before.blank
        (token.conjunction.folds (by decide)) token.after.blank token.word
        (token.comparison.compares statement.ending_stops)
      simpa using clause

theorem predicate_opens : KeyPredicate.Opens statement.predicateText statement.predicate := by
  have compares := statement.key.compares statement.token_stops
  have opens := KeyPredicate.Opens.intro (statement.opening.folds (by decide))
    statement.openingGap.blank (show "\"Id\"".toList.map foldLetter = _ by decide) compares
  rwa [statement.token_found] at opens

end Predicate

section Search

theorem cased_silent {keyword : Text} (word : Cased keyword) (other : ¬"where".toList <:+: keyword) :
    ¬Mentions "where" word.text := by
  rwa [Mentions, word.spelled]

theorem find_behind_command (gap : Gap) (rest : Text) :
    KeyPredicate.find? (statement.command.written ++ (gap.text ++ rest)) =
      KeyPredicate.find? rest := by
  cases statement.command with
  | update word =>
      exact KeyPredicate.find_behind_silent (cased_silent word (by decide +kernel)) gap.blank
  | delete word space origin =>
      rw [TableName.Command.written, List.append_assoc, List.append_assoc,
        KeyPredicate.find_behind_silent (cased_silent word (by decide +kernel)) space.blank,
        KeyPredicate.find_behind_silent (cased_silent origin (by decide +kernel)) gap.blank]

theorem find_behind_assignments (rest : Text) :
    KeyPredicate.find? (statement.assignmentsText ++ rest) = KeyPredicate.find? rest := by
  rw [assignmentsText]
  cases statement.assignments? with
  | none => rfl
  | some assignments =>
      simp only [List.append_assoc]
      rw [KeyPredicate.find_behind_silent (cased_silent assignments.keyword (by decide +kernel))
          assignments.before.blank,
        KeyPredicate.find_behind_silent assignments.silent assignments.after.blank]

theorem predicate_found : KeyPredicate.find? statement.text = some statement.predicate := by
  rw [text, find_behind_command,
    KeyPredicate.find_behind_silent statement.silent statement.tableGap.blank,
    find_behind_assignments, KeyPredicate.find_of_opens statement.predicate_opens]

/-- After the table and its gap comes SET or WHERE. -/
theorem after_table :
    ∃ keyword ∈ ["set".toList, "where".toList], ∃ word rest, word.map foldLetter = keyword ∧
      statement.assignmentsText ++ statement.predicateText = word ++ rest := by
  rw [assignmentsText]
  cases statement.assignments? with
  | none =>
      exact ⟨"where".toList, by simp, statement.opening.text, _,
        statement.opening.folds (by decide), rfl⟩
  | some assignments =>
      exact ⟨"set".toList, by simp, assignments.keyword.text, _,
        assignments.keyword.folds (by decide), List.append_assoc _ _ _⟩

theorem table_ends :
    TableName.EndsReference
      (statement.tableGap.text ++ (statement.assignmentsText ++ statement.predicateText)) := by
  obtain ⟨keyword, member, word, rest, spelled, cut⟩ := statement.after_table
  have settled : ∀ keyword ∈ ["set".toList, "where".toList],
      keyword ≠ [] ∧ IsSolid keyword ∧ keyword.head? ≠ some '.' := by decide
  obtain ⟨nonempty, solid, noDot⟩ := settled keyword member
  rw [cut]
  exact TableName.keyword_ends_reference statement.tableGap.blank spelled nonempty solid noDot rest

theorem table_found : TableName.quoted? statement.text = some statement.quotedTable :=
  TableName.quoted_of_written statement.command statement.commandGap statement.table
    statement.table_ends

end Search

end KeyedStatement

end Sql
end SqlPipeline
