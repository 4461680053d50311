import SqlPipeline.Proofs.Batch.Shape

/-!
Updates that say what to do about a conflict. Only insertions are read with such a clause. Behind
UPDATE the reader takes the OR of the clause for the table, so that the batch asks for its row in a
table of that name. Its roles, its key and the version that it expects are those of the same update
without the clause.
-/

namespace SqlPipeline
namespace Sql

/-- What can be done about a conflict. -/
def conflictActions : List Text :=
  ["abort", "fail", "ignore", "replace", "rollback"]

def plainUpdate (tail : Text) : Text :=
  "UPDATE " ++ tail

def clausedUpdate (action tail : Text) : Text :=
  "UPDATE OR " ++ (action ++ ' ' :: tail)

theorem Cased.absent {keyword : Text} {mark : Char} (word : Cased keyword)
    (absent : mark.toLower ∉ keyword) : mark ∉ word.text := by
  intro member
  apply absent
  rw [← word.spelled]
  exact List.mem_map_of_mem member

/-- A text without quotes and marks adds no name to what stands behind it. -/
theorem names_behind_plain {opening : Text} (plain : ∀ mark ∈ ['@', '\'', '"'], mark ∉ opening)
    (tail : Text) : (number (opening ++ tail)).names = (number tail).names := by
  have unmarked : '@' ∉ opening := plain '@' (by decide)
  have bare : Quoting.bare.run opening = .bare :=
    Quoting.run_plain (P := fun c => c ∈ opening) (plain '\'' (by decide)) (plain '"' (by decide))
      fun _ => id
  have read : fragments (opening ++ tail) = opening.map .literal ++ fragments tail := by
    rw [fragments, fragments_of_hidden (Quoting.hides_of_absent unmarked), bare]
    rfl
  change names (fragments (opening ++ tail)) = names (fragments tail)
  rw [read, names, List.filterMap_append, literals_unnamed, List.nil_append, names]

section Clause

variable {keyword : Text}

theorem action_settled (known : keyword ∈ conflictActions) :
    (keyword ≠ [] ∧ IsSolid keyword ∧ keyword.head? ≠ some '.') ∧
      (∀ letter ∈ keyword, Text.isAscii letter = true) ∧ ¬"where".toList <:+: keyword ∧
      ∀ mark ∈ ['@', '\'', '"'], mark.toLower ∉ keyword := by
  have each : ∀ keyword ∈ conflictActions,
      (keyword ≠ [] ∧ IsSolid keyword ∧ keyword.head? ≠ some '.') ∧
        (∀ letter ∈ keyword, Text.isAscii letter = true) ∧ ¬"where".toList <:+: keyword ∧
        ∀ mark ∈ ['@', '\'', '"'], mark.toLower ∉ keyword := by
    decide +kernel
  exact each keyword known

theorem plain_update_cut (tail : Text) :
    plainUpdate tail = "UPDATE".toList ++ ([' '] ++ tail) := by
  have opening : "UPDATE ".toList = "UPDATE".toList ++ [' '] := by decide
  exact (congrArg (· ++ tail) opening).trans (List.append_assoc _ _ _)

theorem claused_update_cut (action tail : Text) :
    clausedUpdate action tail =
      "UPDATE".toList ++ ([' '] ++ ("OR".toList ++ ([' '] ++ (action ++ ([' '] ++ tail))))) := by
  have opening : "UPDATE OR ".toList = "UPDATE".toList ++ ([' '] ++ ("OR".toList ++ [' '])) := by
    decide
  refine (congrArg (· ++ (action ++ ([' '] ++ tail))) opening).trans ?_
  simp only [List.append_assoc]

theorem clause_names (known : keyword ∈ conflictActions) (action : Cased keyword) (tail : Text) :
    (number (clausedUpdate action.text tail)).names = (number (plainUpdate tail)).names := by
  obtain ⟨-, -, -, unmarked⟩ := action_settled known
  have spaced : ∀ mark ∈ ['@', '\'', '"'],
      mark ∉ "UPDATE OR ".toList ∧ mark ∉ "UPDATE ".toList ∧ mark ∉ [' '] := by decide
  have clause : ∀ mark ∈ ['@', '\'', '"'], mark ∉ "UPDATE OR ".toList ++ (action.text ++ [' ']) := by
    intro mark member
    obtain ⟨first, -, last⟩ := spaced mark member
    rw [List.mem_append, List.mem_append, not_or, not_or]
    exact ⟨first, action.absent (unmarked mark member), last⟩
  have whole : clausedUpdate action.text tail =
      ("UPDATE OR ".toList ++ (action.text ++ [' '])) ++ tail := by
    simp only [List.append_assoc]
    rfl
  calc (number (clausedUpdate action.text tail)).names
      = (number tail).names := by rw [whole, names_behind_plain clause]
    _ = (number (plainUpdate tail)).names :=
        (names_behind_plain (fun mark member => (spaced mark member).2.1) tail).symm

/-- No predicate opens in front of the tail. -/
theorem clause_predicate (known : keyword ∈ conflictActions) (action : Cased keyword) (tail : Text) :
    KeyPredicate.find? (clausedUpdate action.text tail) = KeyPredicate.find? (plainUpdate tail) := by
  obtain ⟨-, -, other, -⟩ := action_settled known
  have gap : IsGap [' '] := by decide
  have opening : ¬Mentions "where" "UPDATE" := by decide +kernel
  have conjunction : ¬Mentions "where" "OR" := by decide +kernel
  have silent : ¬Mentions "where" action.text := by rwa [Mentions, action.spelled]
  calc KeyPredicate.find? (clausedUpdate action.text tail)
      = KeyPredicate.find? ("OR".toList ++ ([' '] ++ (action.text ++ ([' '] ++ tail)))) := by
        rw [claused_update_cut]
        exact KeyPredicate.find_behind_silent opening gap
    _ = KeyPredicate.find? (action.text ++ ([' '] ++ tail)) :=
        KeyPredicate.find_behind_silent conjunction gap
    _ = KeyPredicate.find? tail := KeyPredicate.find_behind_silent silent gap
    _ = KeyPredicate.find? (plainUpdate tail) := by
        rw [plain_update_cut]
        exact (KeyPredicate.find_behind_silent opening gap).symm

namespace TableName

/-- The word that is read as a table where a clause stands. -/
def clauseName : Name := .bare "OR"

theorem clause_name_sound : clauseName.IsSound :=
  ⟨'O', ['R'], by decide, by decide, by decide +kernel⟩

theorem clause_table (known : keyword ∈ conflictActions) (action : Cased keyword) (tail : Text) :
    quoted? (clausedUpdate action.text tail) = some (enclosed "OR") := by
  obtain ⟨⟨nonempty, solid, noDot⟩, ascii, -, -⟩ := action_settled known
  have gap : IsGap [' '] := by decide
  have ends := keyword_ends_reference gap (action.folds ascii) nonempty solid noDot ([' '] ++ tail)
  rw [claused_update_cut]
  exact quoted_of_written (.update ⟨"UPDATE", by decide⟩) ⟨[' '], gap⟩
    (.single clauseName clause_name_sound) ends

/-- An update whose tail begins with a name has a table. -/
theorem plain_update_table {name : Name} (sound : name.IsSound) (rest : Text) :
    ∃ table, quoted? (plainUpdate (name.written ++ rest)) = some table := by
  obtain ⟨whole, later, longer, read⟩ := name_begins sound rest
  have command : afterCommand? (plainUpdate (name.written ++ rest)) = some (name.written ++ rest) := by
    rw [plain_update_cut]
    exact Command.after_written (.update ⟨"UPDATE", by decide⟩) ⟨[' '], by decide⟩
      (written_solid sound rest)
  have found : reference? (plainUpdate (name.written ++ rest)) =
      some (whole.plain :: ((qualified? later).toList).filterMap Name.text?) := by
    simp only [reference?, command, read, Option.bind_eq_bind, Option.bind_some,
      List.filterMap_cons, Name.text_of_sound longer]
  have parts := parts_of_reference found (List.cons_ne_nil _ _)
  exact ⟨_, by rw [quoted?, parts]; rfl⟩

end TableName

end Clause
end Sql

namespace Batch

/-- Two batches say the same of their row, each in its own table. -/
structure AgreeButTable (table other : Text) (first second : Batch) : Prop where
  roles : second.roles = first.roles
  key : second.key = first.key
  version : second.expectedVersion = first.expectedVersion
  changes : second.requestsOf .changes = first.requestsOf .changes
  checks : first.isKeyed = true -> ∃ sent,
    first.requestsOf .verify = [.execute ⟨countText table, [sent]⟩] ∧
    second.requestsOf .verify = [.execute ⟨countText other, [sent]⟩] ∧
    first.requestsOf .refresh = [.execute ⟨rowText table, [sent]⟩] ∧
    second.requestsOf .refresh = [.execute ⟨rowText other, [sent]⟩]
  plain : first.isKeyed = false ->
    (first.requestsOf .verify = [] ∧ second.requestsOf .verify = []) ∧
    first.requestsOf .refresh = [] ∧ second.requestsOf .refresh = []

section Agreement

variable {sql text table other : Text} {parameters : Parameters} {first second : Batch}

theorem bind_of_names {statement : Wire.Statement}
    (names : (Sql.number text).names = (Sql.number sql).names)
    (bound : bind sql parameters = .ok statement) :
    bind text parameters = .ok ⟨(Sql.number text).sql, statement.arguments⟩ := by
  obtain ⟨-, each⟩ := bind_iff.mp bound
  rw [← names] at each
  exact bind_iff.mpr ⟨rfl, each⟩

theorem keyed_row_of_predicate
    (predicate : Sql.KeyPredicate.find? text = Sql.KeyPredicate.find? sql) :
    keyedRow? text parameters = keyedRow? sql parameters := by
  rw [keyedRow?, keyedRow?, predicate]

/-- An update is built when another one with the same names and the same predicate is, and both
agree but for their tables. -/
theorem Modification.with_table (names : (Sql.number text).names = (Sql.number sql).names)
    (predicate : Sql.KeyPredicate.find? text = Sql.KeyPredicate.find? sql)
    (resolved : Sql.TableName.quoted? sql = some table)
    (resolvedOther : Sql.TableName.quoted? text = some other)
    (made : Modification .update sql parameters first) :
    ∃ second, Modification .update text parameters second ∧
      AgreeButTable table other first second := by
  have row : keyedRow? text parameters = keyedRow? sql parameters :=
    keyed_row_of_predicate predicate
  have own : modifiedTable? .update sql = some table :=
    (modified_table_eq rfl sql).trans resolved
  have named : modifiedTable? .update text = some other :=
    (modified_table_eq rfl text).trans resolvedOther
  cases made with
  | plain statement bound unresolved =>
      rw [own] at unresolved
      cases unresolved
  | counted statement _ bound _ unkeyed =>
      refine ⟨_, .counted _ other (bind_of_names names bound) named (row.trans unkeyed), ?_⟩
      exact ⟨rfl, rfl, rfl, rfl, nofun, fun _ => ⟨⟨rfl, rfl⟩, rfl, rfl⟩⟩
  | keyed statement shown keyed sent bound resolvedShown found encoded =>
      cases own.symm.trans resolvedShown
      refine ⟨_, .keyed _ other keyed sent (bind_of_names names bound) named (row.trans found)
        encoded, ?_⟩
      exact ⟨rfl, rfl, rfl, rfl, fun _ => ⟨sent, rfl, rfl, rfl, rfl⟩, nofun⟩

theorem count_text_injective (same : countText table = countText other) : table = other :=
  List.append_cancel_left (List.append_cancel_right same)

theorem AgreeButTable.same_checks_iff (agree : AgreeButTable table other first second) :
    (second.requestsOf .verify = first.requestsOf .verify ∧
        second.requestsOf .refresh = first.requestsOf .refresh) ↔
      first.isKeyed = false ∨ table = other := by
  cases keyed : first.isKeyed with
  | false =>
      obtain ⟨⟨verify, verifyOther⟩, refresh, refreshOther⟩ := agree.plain keyed
      rw [verify, verifyOther, refresh, refreshOther]
      exact iff_of_true ⟨rfl, rfl⟩ (.inl rfl)
  | true =>
      obtain ⟨sent, verify, verifyOther, refresh, refreshOther⟩ := agree.checks keyed
      rw [verify, verifyOther, refresh, refreshOther]
      constructor
      · rintro ⟨same, -⟩
        have statements := Wire.Request.execute.inj (List.cons.inj same).1
        exact .inr (count_text_injective (Wire.Statement.mk.inj statements).1.symm)
      · rintro (unkeyed | rfl)
        · cases unkeyed
        · exact ⟨rfl, rfl⟩

end Agreement

/-- An update with a conflict clause is built when the update without it is. Both agree but for the
table, for which the first takes the word OR: what is verified and read again is the same when no
row is looked for or when the table has that name, and in no other case. -/
theorem conflict_clause_outcome {keyword : Text} (known : keyword ∈ Sql.conflictActions)
    (action : Sql.Cased keyword) {name : Sql.TableName.Name} (sound : name.IsSound) (rest : Text)
    (parameters : Parameters) :
    let plain := Sql.plainUpdate (name.written ++ rest)
    let claused := Sql.clausedUpdate action.text (name.written ++ rest)
    let clauseTable := Sql.TableName.enclosed "OR"
    ∃ table, Sql.TableName.quoted? plain = some table ∧
      ((∃ second, ofModification .update claused parameters = .ok second) ↔
        ∃ first, ofModification .update plain parameters = .ok first) ∧
      ∀ first second, ofModification .update plain parameters = .ok first ->
        ofModification .update claused parameters = .ok second ->
        AgreeButTable table clauseTable first second ∧
        ((second.requestsOf .verify = first.requestsOf .verify ∧
            second.requestsOf .refresh = first.requestsOf .refresh) ↔
          first.isKeyed = false ∨ table = clauseTable) := by
  intro plain claused clauseTable
  obtain ⟨table, resolved⟩ := Sql.TableName.plain_update_table sound rest
  have resolvedOther : Sql.TableName.quoted? claused = some clauseTable :=
    Sql.TableName.clause_table known action _
  have names := Sql.clause_names known action (name.written ++ rest)
  have predicate := Sql.clause_predicate known action (name.written ++ rest)
  refine ⟨table, resolved, ⟨?_, ?_⟩, ?_⟩
  · rintro ⟨second, built⟩
    obtain ⟨first, made, -⟩ := (of_modification_iff.mp built).with_table names.symm predicate.symm
      resolvedOther resolved
    exact ⟨first, of_modification_iff.mpr made⟩
  · rintro ⟨first, built⟩
    obtain ⟨second, made, -⟩ := (of_modification_iff.mp built).with_table names predicate resolved
      resolvedOther
    exact ⟨second, of_modification_iff.mpr made⟩
  · intro first second built builtOther
    obtain ⟨own, made, agree⟩ := (of_modification_iff.mp built).with_table names predicate resolved
      resolvedOther
    cases (of_modification_iff.mpr made).symm.trans builtOther
    exact ⟨agree, agree.same_checks_iff⟩

section Items

def itemsName : Sql.TableName.Name := .quoted "Items"

def itemsRest : Text := " SET \"a\" = 1 WHERE \"Id\" = @k"

def itemsUpdate : Text := Sql.plainUpdate (itemsName.written ++ itemsRest)

def itemKey : Entry := ⟨0, ⟨"@k", .text "7", none, 0, false⟩⟩

def itemKeySent : Wire.Argument := ⟨some "@k", .text "7"⟩

theorem items_update_table :
    Sql.TableName.quoted? itemsUpdate = some (Sql.TableName.enclosed "Items") := by
  decide

theorem items_update_names : (Sql.number itemsUpdate).names = ["@k".toList] := by
  have cut : itemsUpdate =
      "UPDATE \"Items\" SET \"a\" = 1 WHERE \"Id\" = ".toList ++ '@' :: ['k'] := by decide
  rw [cut, Sql.number_of_name (by decide) (by decide) (by decide) (by decide)]
  rfl

theorem items_update_built :
    ∃ first, ofModification .update itemsUpdate ⟨[itemKey]⟩ = .ok first ∧ first.isKeyed = true ∧
      first.requestsOf .verify = [.execute ⟨countText "\"Items\"", [itemKeySent]⟩] := by
  have found : Parameters.find? ⟨[itemKey]⟩ "@k" = some itemKey := rfl
  have encoded : itemKey.parameter.encode = .ok itemKeySent := rfl
  have bound : ∀ name ∈ (Sql.number itemsUpdate).names, ∃ sent, Binds ⟨[itemKey]⟩ name sent := by
    rw [items_update_names]
    intro name member
    rw [List.mem_singleton.mp member]
    exact ⟨itemKeySent, itemKey, found, encoded⟩
  have resolved : modifiedTable? .update itemsUpdate = some (Sql.TableName.enclosed "Items") :=
    (modified_table_eq rfl itemsUpdate).trans items_update_table
  have opens : Sql.KeyPredicate.find? itemsUpdate = some ⟨"@k", none⟩ := by decide
  obtain ⟨main, -, built⟩ := keyed_built bound resolved opens found encoded rfl
  exact ⟨_, built, rfl, rfl⟩

/-- With the clause the row of an item is looked for in a table OR. -/
theorem conflict_clause_outcome_ignore :
    ∃ first second, ofModification .update itemsUpdate ⟨[itemKey]⟩ = .ok first ∧
      ofModification .update (Sql.clausedUpdate "IGNORE" (itemsName.written ++ itemsRest))
        ⟨[itemKey]⟩ = .ok second ∧
      first.requestsOf .verify = [.execute ⟨countText "\"Items\"", [itemKeySent]⟩] ∧
      second.requestsOf .verify = [.execute ⟨countText "\"OR\"", [itemKeySent]⟩] ∧
      ¬(second.requestsOf .verify = first.requestsOf .verify ∧
        second.requestsOf .refresh = first.requestsOf .refresh) := by
  have known : "ignore".toList ∈ Sql.conflictActions := by decide
  have sound : itemsName.IsSound := ⟨by decide, by decide⟩
  obtain ⟨first, plain, keyed, verify⟩ := items_update_built
  obtain ⟨table, resolved, built, agree⟩ :=
    conflict_clause_outcome known ⟨"IGNORE", by decide⟩ sound itemsRest ⟨[itemKey]⟩
  obtain ⟨second, claused⟩ := built.mpr ⟨first, plain⟩
  obtain ⟨same, checks⟩ := agree first second plain claused
  cases items_update_table.symm.trans resolved
  obtain ⟨sent, verifyOwn, verifyOther, -, -⟩ := same.checks keyed
  have sentSame : [Wire.Request.execute ⟨countText "\"Items\"", [itemKeySent]⟩] =
      [.execute ⟨countText "\"Items\"", [sent]⟩] := verify.symm.trans verifyOwn
  cases sentSame
  refine ⟨first, second, plain, claused, verify, verifyOther, ?_⟩
  rw [checks, keyed]
  rintro (unkeyed | table)
  · cases unkeyed
  · exact absurd table (by decide)

end Items

end Batch
end SqlPipeline
