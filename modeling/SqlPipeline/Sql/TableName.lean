import SqlPipeline.Sql.Keyword
import SqlPipeline.Text.Word

/-!
The table that an INSERT, UPDATE or DELETE is about: one name, or a schema and a name, each either
quoted or bare. The search goes by keywords alone and knows no joins or common table expressions.
-/

namespace SqlPipeline
namespace Sql
namespace TableName

/-- The blanks, keyword and blanks after the first word of a multi-word command. -/
def afterWord? (keyword s : Text) : Option Text := do
  let s ← Text.afterBlanks? s
  afterKeyword? keyword s

def afterConflictClause? (s : Text) : Option Text := do
  let s ← afterKeyword? "or" s
  let s ← Text.afterBlanks? s
  if (s.takeWhile Text.isWordChar).isEmpty then none
  else Text.afterBlanks? (s.dropWhile Text.isWordChar)

def afterUpdate? (s : Text) : Option Text :=
  afterKeyword? "update" s

def afterDelete? (s : Text) : Option Text := do
  let s ← afterKeyword? "delete" s
  afterWord? "from" s

def afterInsert? (s : Text) : Option Text := do
  let s ← afterKeyword? "insert" s
  let s ← Text.afterBlanks? s
  match afterConflictClause? s with
  | some s => afterKeyword? "into" s
  | none => afterKeyword? "into" s

/-- The text after the command words that announce a table name. -/
def afterCommand? (s : Text) : Option Text := do
  let s ← (afterUpdate? s).or ((afterDelete? s).or (afterInsert? s))
  Text.afterBlanks? s

def startsName (c : Char) : Bool :=
  c = '_' || Text.isAsciiLetter c

inductive Name where
  | quoted (name : Text)
  | bare (word : Text)
  deriving DecidableEq, Repr

/-- A name at the start of a text, and the text after it. -/
def name? : Text -> Option (Name × Text)
  | [] => none
  | '"' :: rest =>
      let name := rest.takeWhile (· ≠ '"')
      match rest.dropWhile (· ≠ '"') with
      | [] => none
      | _ :: after => if name.isEmpty then none else some (.quoted name, after)
  | c :: rest =>
      if startsName (foldLetter c) then
        some (.bare (c :: rest.takeWhile Text.isWordChar), rest.dropWhile Text.isWordChar)
      else none

/-- The second name of a qualified reference. -/
def qualified? (s : Text) : Option Name := do
  let s ← afterChar? '.' (Text.trimStart s)
  let (name, _) ← name? (Text.trimStart s)
  some name

/-- The text of a name; a bare word counts from its first ASCII letter or underscore. -/
def Name.text? : Name -> Option Text
  | quoted name => some name
  | bare word =>
      match word.dropWhile fun c => !startsName c with
      | [] => none
      | name => some name

/-- The names of the reference that a command at the start of a text announces. -/
def reference? (s : Text) : Option (List Text) := do
  let s ← afterCommand? s
  let (first, s) ← name? s
  some ((first :: (qualified? s).toList).filterMap Name.text?)

/-- The first reference in a text, where a command word may not continue a word before it. -/
def findFrom? : Bool -> Text -> Option (List Text)
  | _, [] => none
  | inWord, c :: rest =>
      match if inWord then none else reference? (c :: rest) with
      | some parts => some parts
      | none => findFrom? (Text.isWordChar c) rest

def parts? (sql : Text) : Option (List Text) := do
  let parts ← findFrom? false sql
  if parts.isEmpty then none else some parts

def plain? (sql : Text) : Option Text :=
  (parts? sql).map (List.intercalate ".")

def quotePart (part : Text) : Text :=
  '"' :: (part.flatMap fun c => if c = '"' then ['"', '"'] else [c]) ++ ['"']

/-- The reference with every name quoted. -/
def quoted? (sql : Text) : Option Text :=
  (parts? sql).map fun parts => List.intercalate "." (parts.map quotePart)

end TableName
end Sql
end SqlPipeline
