import SqlPipeline.Proofs.Batch.Binding
import SqlPipeline.Proofs.Batch.Modification
import SqlPipeline.Proofs.Sql.KeyedStatement
import SqlPipeline.Proofs.Sql.Numbering

/-!
The check of a row. A statement that gives its row by key, in whatever letter case and with whatever
blanks it is written, is sent together with a check of that row, in the table that it is written
with.
-/

namespace SqlPipeline
namespace Batch

section Version

variable {predicate : Sql.KeyPredicate} {parameters : Parameters}

theorem token_value_absent (absent : predicate.token? = none) :
    tokenValue predicate parameters = .null := by
  rw [tokenValue, absent]
  rfl

theorem token_value_bound {token : Sql.TokenPredicate} {entry : Entry}
    (present : predicate.token? = some token)
    (bound : parameters.find? token.placeholder = some entry) :
    tokenValue predicate parameters = entry.parameter.value := by
  rw [tokenValue, present, Option.bind_some, bound]

end Version

section Statement

variable {operation : Sql.Operation} {parameters : Parameters} {key : Entry} {sent : Wire.Argument}

/-- Where all names are bound, a table is resolved and a key has a value, a batch is built, and it
is keyed. -/
theorem keyed_built {sql table : Text} {predicate : Sql.KeyPredicate}
    (bound : ∀ name ∈ (Sql.number sql).names, ∃ sent, Binds parameters name sent)
    (resolved : modifiedTable? operation sql = some table)
    (opens : Sql.KeyPredicate.find? sql = some predicate)
    (found : parameters.find? predicate.key = some key)
    (encoded : key.parameter.encode = .ok sent) (notNull : key.parameter.value.isNull = false) :
    ∃ main, bind sql parameters = .ok main ∧ ofModification operation sql parameters = .ok
      ⟨sql, keyedEntries operation (execute main .main operation) table sent, key.parameter.value,
        tokenValue predicate parameters⟩ := by
  obtain ⟨main, bindsMain⟩ := bind_total bound
  have row : keyedRow? sql parameters =
      some ⟨key.parameter, tokenValue predicate parameters⟩ := by
    rw [keyed_row_eq opens found, if_neg (by rw [notNull]; decide)]
  have made := Modification.keyed main table _ sent bindsMain resolved row encoded
  exact ⟨main, bindsMain, of_modification_iff.mpr made⟩

theorem keyed_statement_built (statement : Sql.KeyedStatement)
    (modifies : operation = .update ∨ operation = .delete)
    (bound : ∀ name ∈ (Sql.number statement.text).names, ∃ sent, Binds parameters name sent)
    (found : parameters.find? statement.key.placeholder = some key)
    (encoded : key.parameter.encode = .ok sent) (notNull : key.parameter.value.isNull = false) :
    ∃ main, ofModification operation statement.text parameters = .ok
      ⟨statement.text, keyedEntries operation (execute main .main operation) statement.quotedTable
        sent, key.parameter.value, tokenValue statement.predicate parameters⟩ := by
  have changing : operation.modifies = true := by
    rcases modifies with rfl | rfl <;> rfl
  have resolved : modifiedTable? operation statement.text = some statement.quotedTable := by
    rw [modified_table_eq changing, statement.table_found]
  obtain ⟨main, _, built⟩ :=
    keyed_built bound resolved statement.predicate_found found encoded notNull
  exact ⟨main, built⟩

/-- Every statement that gives its row by key is sent with the check of that row. -/
theorem keyed_statement_checked (statement : Sql.KeyedStatement)
    (modifies : operation = .update ∨ operation = .delete)
    (bound : ∀ name ∈ (Sql.number statement.text).names, ∃ sent, Binds parameters name sent)
    (found : parameters.find? statement.key.placeholder = some key)
    (encoded : key.parameter.encode = .ok sent) (notNull : key.parameter.value.isNull = false) :
    ∃ batch, ofModification operation statement.text parameters = .ok batch ∧
      batch.isKeyed = true ∧ batch.key = key.parameter.value ∧
      (statement.token? = none -> batch.expectedVersion = .null) ∧
      (∀ token, statement.token? = some token -> ∀ entry,
        parameters.find? token.comparison.placeholder = some entry ->
          batch.expectedVersion = entry.parameter.value) ∧
      batch.requestsOf .verify = [.execute ⟨countText statement.quotedTable, [sent]⟩] ∧
      batch.requestsOf .refresh =
        if operation = .update then [.execute ⟨rowText statement.quotedTable, [sent]⟩] else [] := by
  obtain ⟨main, built⟩ := keyed_statement_built statement modifies bound found encoded notNull
  refine ⟨_, built, rfl, rfl, ?_, ?_, requests_of_keyed .verify, requests_of_keyed .refresh⟩
  · intro absent
    apply token_value_absent
    rw [Sql.KeyedStatement.predicate, absent]
    rfl
  · intro token present entry boundToken
    have compared : statement.predicate.token? =
        some ⟨token.column, token.comparison.placeholder⟩ := by
      rw [Sql.KeyedStatement.predicate, present]
      rfl
    exact token_value_bound compared boundToken

end Statement

/-- An update in mixed letter case of a table whose name holds a semicolon, a mark and a quote. -/
def mixedUpdate : Sql.KeyedStatement where
  command := .update ⟨"uPdAtE", by decide⟩
  commandGap := ⟨"\n\t", by decide⟩
  table := .qualified (.bare "main") ⟨" ", by decide⟩ ⟨"", by decide⟩ (.quoted "It's; @x")
    ⟨'m', "ain", rfl, by decide, by decide +kernel⟩ ⟨by decide, by decide⟩
  silent := by decide +kernel
  tableGap := ⟨"  ", by decide⟩
  assignments? := some {
    keyword := ⟨"Set", by decide⟩
    before := ⟨" ", by decide⟩
    list := "\"a\" = @v, \"b\" = 'x; @y'"
    after := ⟨"\n", by decide⟩
    silent := by decide +kernel }
  opening := ⟨"wHERE", by decide⟩
  openingGap := ⟨" ", by decide⟩
  key := ⟨⟨"", by decide⟩, ⟨" ", by decide⟩, "key", by decide, by decide⟩
  token? := some {
    before := ⟨" ", by decide⟩
    conjunction := ⟨"anD", by decide⟩
    after := ⟨"\t", by decide⟩
    column := "Ver"
    word := by decide +kernel
    comparison := ⟨⟨"", by decide⟩, ⟨"", by decide⟩, "t", by decide, by decide⟩ }
  ending := ⟨" ", by decide⟩
  isEnded := true

theorem mixed_update_text :
    mixedUpdate.text =
      "uPdAtE\n\tmain .\"It's; @x\"  Set \"a\" = ".toList ++ '@' :: ("v".toList ++
        (", \"b\" = 'x; @y'\nwHERE \"Id\"= ".toList ++ '@' :: ("key".toList ++
          (" anD\t\"Ver\"=".toList ++ '@' :: ("t".toList ++ " ;".toList))))) := by
  decide

/-- The marks in the name of the table and in the text that is assigned are no placeholders. -/
theorem mixed_update_names :
    (Sql.number mixedUpdate.text).names = ["@v".toList, "@key".toList, "@t".toList] := by
  change ((Sql.fragments mixedUpdate.text).filterMap Sql.Fragment.name?).eraseDups = _
  rw [mixed_update_text, Sql.named_through_name (by decide) (by decide) (by decide) (by decide)
      (by decide), Sql.named_through_name (by decide) (by decide) (by decide) (by decide)
      (by decide), Sql.named_through_name (by decide) (by decide) (by decide) (by decide)
      (by decide), Sql.fragments_of_text (by decide), Sql.literals_unnamed]
  decide

def mixedParameters : Parameters :=
  .ofList [⟨"t", .text "v7", none, 0, false⟩, ⟨"@v", .bool true, none, 0, false⟩,
    ⟨"@key", .text "row;1", none, 0, false⟩]

theorem mixed_parameters_bind :
    ∀ name ∈ (Sql.number mixedUpdate.text).names, ∃ sent, Binds mixedParameters name sent := by
  rw [mixed_update_names]
  intro name member
  simp only [List.mem_cons, List.not_mem_nil, or_false] at member
  rcases member with rfl | rfl | rfl
  · exact ⟨⟨some "@v", .integer ['1']⟩, _, rfl, rfl⟩
  · exact ⟨⟨some "@key", .text "row;1"⟩, _, rfl, rfl⟩
  · exact ⟨⟨some "t", .text "v7"⟩, _, rfl, rfl⟩

theorem keyed_statement_checked_mixed :
    ∃ batch, ofModification .update mixedUpdate.text mixedParameters = .ok batch ∧
      batch.isKeyed = true ∧ batch.key = .text "row;1" ∧ batch.expectedVersion = .text "v7" ∧
      batch.requestsOf .verify =
        [.execute ⟨countText "\"main\".\"It's; @x\"", [⟨some "@key", .text "row;1"⟩]⟩] ∧
      batch.requestsOf .refresh =
        [.execute ⟨rowText "\"main\".\"It's; @x\"", [⟨some "@key", .text "row;1"⟩]⟩] := by
  obtain ⟨batch, built, keyed, key, _, version, verify, refresh⟩ :=
    keyed_statement_checked mixedUpdate (.inl rfl) mixed_parameters_bind rfl rfl rfl
  exact ⟨batch, built, keyed, key, version _ rfl _ rfl, verify, refresh⟩

end Batch
end SqlPipeline
