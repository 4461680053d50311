import SqlPipeline.Batch.Basic
import SqlPipeline.Parameter.Collection
import SqlPipeline.Sql.KeyPredicate
import SqlPipeline.Sql.Placeholder
import SqlPipeline.Sql.TableName

/-!
Building batches. Placeholders are bound to parameters by name. A modification of rows that exist is
followed by a count of the changes; when its row is given by key, a check that the row is there
goes before it, and an update reads the row again after it.
-/

namespace SqlPipeline
namespace Batch

def argument (sql : Text) (parameters : Parameters) (name : Text) : Outcome Wire.Argument :=
  match parameters.find? name with
  | none => .error (.library (.ofSql (.parameterMissing name) sql))
  | some entry => entry.parameter.encode

def bind (sql : Text) (parameters : Parameters) : Outcome Wire.Statement := do
  let numbered := Sql.number sql
  let arguments ← numbered.names.mapM (argument sql parameters)
  .ok ⟨numbered.sql, arguments⟩

/-- Binds statements with their operations; there must be as many of one as of the other. -/
def bindEach (parameters : Parameters) :
    List Text -> List Sql.Operation -> Outcome (List BatchEntry)
  | [], [] => .ok []
  | statement :: statements, operation :: operations => do
      let bound ← bind statement parameters
      let later ← bindEach parameters statements operations
      .ok (execute bound .main operation :: later)
  | _, _ => .error (.fault .badContent)

/-- One request for each statement, in order. -/
def ofStatements (statements : List Text) (operations : List Sql.Operation)
    (parameters : Parameters) (sql? : Option Text) (closes : Bool) : Outcome Batch := do
  let entries ← bindEach parameters statements operations
  .ok {
    sql := sql?.getD (List.intercalate [' '] statements)
    entries := entries ++ if closes then [closing] else []
    key := .null
    expectedVersion := .null }

/-- The parameter that gives the key of a statement's row, and the version that is expected. -/
structure KeyedRow where
  key : Parameter
  expectedVersion : Value

def keyedRow? (sql : Text) (parameters : Parameters) : Option KeyedRow := do
  let predicate ← Sql.KeyPredicate.find? sql
  let key ← parameters.find? predicate.key
  let version? := predicate.token?.bind fun token => parameters.find? token.placeholder
  if key.parameter.value.isNull then none
  else
    some ⟨key.parameter, (version?.map fun entry => entry.parameter.value).getD .null⟩

def countText (table : Text) : Text :=
  "SELECT COUNT(*) FROM " ++ table ++ " WHERE \"Id\" = ?1;"

def rowText (table : Text) : Text :=
  "SELECT * FROM " ++ table ++ " WHERE \"Id\" = ?1;"

def changesText : Text := "SELECT changes();"

def changesEntry : BatchEntry :=
  execute ⟨changesText, []⟩ .changes .other

/-- The table of a statement that changes or removes rows. -/
def modifiedTable? (operation : Sql.Operation) (sql : Text) : Option Text :=
  if operation.modifies then Sql.TableName.quoted? sql else none

def refreshEntries (operation : Sql.Operation) (table : Text) (key : Wire.Argument) :
    List BatchEntry :=
  if operation = .update then [execute ⟨rowText table, [key]⟩ .refresh .other] else []

def keyedEntries (operation : Sql.Operation) (main : BatchEntry) (table : Text)
    (key : Wire.Argument) : List BatchEntry :=
  [execute ⟨countText table, [key]⟩ .verify .other, main, changesEntry]
    ++ refreshEntries operation table key ++ [closing]

/-- The batch of one statement that is executed for its effect. -/
def ofModification (operation : Sql.Operation) (sql : Text) (parameters : Parameters) :
    Outcome Batch := do
  let main := execute (← bind sql parameters) .main operation
  match modifiedTable? operation sql with
  | none => .ok ⟨sql, [main, closing], .null, .null⟩
  | some table =>
      match keyedRow? sql parameters with
      | none => .ok ⟨sql, [main, changesEntry, closing], .null, .null⟩
      | some row => do
          let key ← row.key.encode
          .ok ⟨sql, keyedEntries operation main table key, row.key.value, row.expectedVersion⟩

end Batch
end SqlPipeline
