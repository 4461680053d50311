import SqlPipeline.Proofs.Sql.TableName

/-!
Statements that announce their table at the start, behind blanks if there are any: an update, a
deletion, or an insertion, which may say what to do about a conflict. The names of the reference
behind the words of the command are those that are found, whatever keywords, quotes or names follow.
-/

namespace SqlPipeline
namespace Sql
namespace TableName

/-- What an insertion says to do about a conflict. -/
structure ConflictClause where
  keyword : Cased "or"
  before : Gap
  action : Text
  word : IsWord action
  after : Gap

/-- The words in front of the table of a statement. -/
inductive Announcement where
  | change (command : Command)
  | insert (word : Cased "insert") (gap : Gap) (clause? : Option ConflictClause)
      (into : Cased "into")

def ConflictClause.written (clause : ConflictClause) : Text :=
  clause.keyword.text ++ (clause.before.text ++ (clause.action ++ clause.after.text))

def clauseText : Option ConflictClause -> Text
  | none => []
  | some clause => clause.written

def Announcement.written : Announcement -> Text
  | change command => command.written
  | insert word gap clause? into => word.text ++ (gap.text ++ (clauseText clause? ++ into.text))

section Insertion

variable {rest : Text}

theorem after_conflict_clause (clause : ConflictClause) (solid : IsSolid rest) :
    afterConflictClause? (clause.written ++ rest) = some rest := by
  have whole : clause.written ++ rest =
      clause.keyword.text ++ (clause.before.text ++ (clause.action ++ (clause.after.text ++ rest))) := by
    simp [ConflictClause.written]
  obtain ⟨nonempty, all⟩ := clause.word
  have solidAction : IsSolid (clause.action ++ (clause.after.text ++ rest)) := by
    obtain ⟨first, action, same⟩ := List.exists_cons_of_ne_nil nonempty
    rw [same]
    exact mark_solid (word_not_blank (all first (same ▸ List.mem_cons_self))) _
  have opening : afterKeyword? "or"
      (clause.keyword.text ++ (clause.before.text ++ (clause.action ++ (clause.after.text ++ rest)))) =
        some (clause.before.text ++ (clause.action ++ (clause.after.text ++ rest))) :=
    clause.keyword.taken (by decide) _
  have between : Text.afterBlanks?
      (clause.before.text ++ (clause.action ++ (clause.after.text ++ rest))) =
        some (clause.action ++ (clause.after.text ++ rest)) :=
    clause.before.taken solidAction
  have stop : EndsWord (clause.after.text ++ rest) := gap_ends_word clause.after.blank rest
  have taken := Text.take_while_run (clause.after.text ++ rest) all stop
  have left := Text.drop_while_run (clause.after.text ++ rest) all stop
  have closing : Text.afterBlanks? (clause.after.text ++ rest) = some rest :=
    clause.after.taken solid
  rw [whole]
  simp only [afterConflictClause?, opening, between, Option.bind_eq_bind, Option.bind_some, taken,
    left, List.isEmpty_iff, if_neg nonempty, closing]

/-- The letters of INTO open no clause. -/
theorem no_conflict_clause (into : Cased "into") :
    afterConflictClause? (into.text ++ rest) = none := by
  have other : afterKeyword? "or" (into.text ++ rest) = none := by
    apply after_keyword_none (by decide)
    rw [keyword_head (into.folds (by decide)) (by decide)]
    decide
  rw [afterConflictClause?, other]
  rfl

theorem after_insertion (word : Cased "insert") (gap : Gap) (clause? : Option ConflictClause)
    (into : Cased "into") :
    afterInsert? (word.text ++ (gap.text ++ (clauseText clause? ++ (into.text ++ rest)))) =
      some rest := by
  have solidInto : IsSolid (into.text ++ rest) :=
    keyword_solid (into.folds (by decide)) (by decide) (by decide) rest
  have last : afterKeyword? "into" (into.text ++ rest) = some rest :=
    into.taken (by decide) rest
  have solid : IsSolid (clauseText clause? ++ (into.text ++ rest)) := by
    cases clause? with
    | none => exact solidInto
    | some clause =>
        rw [clauseText, ConflictClause.written, List.append_assoc]
        exact keyword_solid (clause.keyword.folds (by decide)) (by decide) (by decide) _
  have first : afterKeyword? "insert"
      (word.text ++ (gap.text ++ (clauseText clause? ++ (into.text ++ rest)))) =
        some (gap.text ++ (clauseText clause? ++ (into.text ++ rest))) :=
    word.taken (by decide) _
  have between : Text.afterBlanks? (gap.text ++ (clauseText clause? ++ (into.text ++ rest))) =
      some (clauseText clause? ++ (into.text ++ rest)) :=
    gap.taken solid
  rw [afterInsert?, first, Option.bind_eq_bind, Option.bind_some, between, Option.bind_some]
  cases clause? with
  | none =>
      rw [clauseText, List.nil_append, no_conflict_clause into]
      exact last
  | some clause =>
      rw [clauseText, after_conflict_clause clause solidInto]
      exact last

theorem Announcement.after_written (announcement : Announcement) (gap : Gap) (solid : IsSolid rest) :
    afterCommand? (announcement.written ++ (gap.text ++ rest)) = some rest := by
  cases announcement with
  | change command => exact command.after_written gap solid
  | insert word space clause? into =>
      have head (later : Text) : (word.text ++ later).head?.map foldLetter = some 'i' :=
        keyword_head (word.folds (by decide)) (by decide) later
      have notUpdate (later : Text) : afterUpdate? (word.text ++ later) = none :=
        after_keyword_none (by decide) (by rw [head]; decide)
      have notDelete (later : Text) : afterKeyword? "delete" (word.text ++ later) = none :=
        after_keyword_none (by decide) (by rw [head]; decide)
      have read : afterInsert? (word.text ++ (space.text ++ (clauseText clause? ++ (into.text ++
          (gap.text ++ rest))))) = some (gap.text ++ rest) :=
        after_insertion word space clause? into
      have left : Text.afterBlanks? (gap.text ++ rest) = some rest :=
        gap.taken solid
      simp only [written, List.append_assoc, afterCommand?, afterDelete?, notUpdate, notDelete, read,
        Option.none_or, Option.bind_eq_bind, Option.bind_none, Option.bind_some, left]

end Insertion

section Search

variable {s rest : Text}

/-- No command starts with a blank. -/
theorem command_solid (read : afterCommand? s = some rest) : IsSolid s := by
  simp only [afterCommand?, afterUpdate?, afterDelete?, afterInsert?, Option.bind_eq_bind,
    Option.bind_eq_some_iff, Option.or_eq_some_iff, after_keyword_iff] at read
  obtain ⟨_, ⟨word, spelled, rfl⟩ | ⟨-, ⟨_, ⟨word, spelled, rfl⟩, -⟩ | ⟨-, _, ⟨word, spelled, rfl⟩, -⟩⟩,
    -⟩ := read
  · exact keyword_solid spelled (by decide) (by decide) _
  · exact keyword_solid spelled (by decide) (by decide) _
  · exact keyword_solid spelled (by decide) (by decide) _

/-- The search goes through blanks, which no word continues. -/
theorem find_behind_blanks {blanks : Text} (blank : IsBlanks blanks) (s : Text) :
    findFrom? false (blanks ++ s) = findFrom? false s := by
  induction blanks with
  | nil => rfl
  | cons c blanks ih =>
      obtain ⟨first, later⟩ := List.forall_mem_cons.mp blank
      have here : reference? (c :: (blanks ++ s)) = none := by
        rw [Option.eq_none_iff_forall_ne_some]
        intro parts found
        obtain ⟨_, read, -⟩ := Option.bind_eq_some_iff.mp found
        have solid := command_solid read c rfl
        rw [first] at solid
        cases solid
      rw [List.cons_append, findFrom?, blank_not_word first, if_neg Bool.false_ne_true, here]
      exact ih later

theorem parts_behind_blanks (leading : Blanks) (s : Text) : parts? (leading.text ++ s) = parts? s := by
  rw [parts?, parts?, find_behind_blanks leading.blank]

end Search

/-- The names of the reference that a statement announces are those that are found in it. Joined by
dots they are the table that it is about, as they are or each between double quotes. -/
theorem announced_table (leading : Blanks) (announcement : Announcement) (gap : Gap)
    (reference : Reference) {rest : Text} (ends : EndsReference rest) :
    let sql := leading.text ++ (announcement.written ++ (gap.text ++ (reference.written ++ rest)))
    parts? sql = some reference.names ∧
      plain? sql = some (List.intercalate "." reference.names) ∧
      quoted? sql = some (List.intercalate "." (reference.names.map enclosed)) := by
  intro sql
  have command := announcement.after_written gap (reference.solid rest)
  have parts : parts? sql = some reference.names :=
    (parts_behind_blanks leading _).trans
      (parts_of_reference (reference_of_written reference ends command) reference.names_ne_nil)
  refine ⟨parts, ?_, ?_⟩
  · rw [plain?, parts, Option.map_some]
  · rw [quoted?, parts, Option.map_some, quoted_names reference]

/-- An insertion with a clause, in mixed letter case, into a table whose name says UPDATE. -/
def clausedInsertion : Announcement :=
  .insert ⟨"InSERT", by decide⟩ ⟨"\r\n", by decide⟩
    (some ⟨⟨"oR", by decide⟩, ⟨"\t\t", by decide⟩, "rollback", by decide +kernel,
      ⟨"   ", by decide⟩⟩)
    ⟨"INTO", by decide⟩

def spacedReference : Reference :=
  .qualified (.bare "_main") ⟨"\r", by decide⟩ ⟨"\r\t", by decide⟩ (.quoted "UPDATE x; 'y'.z")
    ⟨'_', "main", rfl, by decide, by decide +kernel⟩ ⟨by decide, by decide⟩

theorem announced_table_claused :
    let rest : Text := "(a) SELECT 'DELETE FROM \"b\".c' -- UPDATE d"
    let sql : Text := "\n InSERT\r\noR\t\trollback   INTO  _main\r.\r\t\"UPDATE x; 'y'.z\"" ++ rest
    EndsReference rest ∧ parts? sql = some ["_main".toList, "UPDATE x; 'y'.z".toList] ∧
      plain? sql = some "_main.UPDATE x; 'y'.z".toList ∧
      quoted? sql = some "\"_main\".\"UPDATE x; 'y'.z\"".toList := by
  intro rest sql
  have ends : EndsReference rest := ⟨mark_ends_word (by decide +kernel) _, by decide⟩
  have whole : sql = "\n ".toList ++ (clausedInsertion.written ++ ("  ".toList ++
      (spacedReference.written ++ rest))) := by
    decide
  obtain ⟨parts, plain, quoted⟩ :=
    announced_table ⟨"\n ", by decide⟩ clausedInsertion ⟨"  ", by decide⟩ spacedReference ends
  rw [whole]
  exact ⟨ends, parts, plain, quoted⟩

end TableName
end Sql
end SqlPipeline
