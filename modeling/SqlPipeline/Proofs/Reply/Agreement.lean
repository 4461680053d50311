import SqlPipeline.Proofs.Reply.Escape
import SqlPipeline.Proofs.Reply.Tabulation

/-!
Two readings of one reply. The scalar is the first cell of the last result with rows, and the last
table with rows is the table of that result, so that its first cell is the scalar as the type of its
column has it. The cell of the scalar is also a cell of a table: where the tables can be read, so
can the scalar.
-/

namespace SqlPipeline

section Last

variable {α β ε : Type} {P : α -> Prop} {items : List α} {item : α}

/-- An item of a list has a property, and none behind it has. -/
def IsLast (P : α -> Prop) (items : List α) (item : α) : Prop :=
  ∃ earlier later, items = earlier ++ item :: later ∧ P item ∧ ∀ other ∈ later, ¬P other

theorem exists_last (some : ∃ item ∈ items, P item) : ∃ item, IsLast P items item := by
  induction items with
  | nil =>
      obtain ⟨item, member, -⟩ := some
      cases member
  | cons first items ih =>
      by_cases later : ∃ item ∈ items, P item
      · obtain ⟨item, before, behind, rfl, holds, none⟩ := ih later
        exact ⟨item, first :: before, behind, rfl, holds, none⟩
      · obtain ⟨item, member, holds⟩ := some
        have own : item = first :=
          (List.mem_cons.mp member).resolve_right fun behind => later ⟨item, behind, holds⟩
        subst own
        exact ⟨item, [], items, rfl, holds, fun other behind own => later ⟨other, behind, own⟩⟩

namespace IsLast

theorem holds (last : IsLast P items item) : P item := by
  obtain ⟨-, -, -, holds, -⟩ := last
  exact holds

theorem mem (last : IsLast P items item) : item ∈ items := by
  obtain ⟨earlier, later, rfl, -, -⟩ := last
  exact List.mem_append_right earlier List.mem_cons_self

/-- Among the items that are kept, those with the property being among them, the last stays last. -/
theorem filter {kept : α -> Bool} (last : IsLast P items item)
    (keeps : ∀ other ∈ items, P other -> kept other = true) :
    IsLast P (items.filter kept) item := by
  have stays := keeps item last.mem
  obtain ⟨earlier, later, rfl, holds, none⟩ := last
  refine ⟨earlier.filter kept, later.filter kept, ?_, holds, ?_⟩
  · rw [List.filter_append, List.filter_cons_of_pos (stays holds)]
  · exact fun other member => none other (List.mem_of_mem_filter member)

/-- Steps that lead from items with a property to results with another one lead from the last of
the former to the last of the latter. -/
theorem of_steps {Q : β -> Prop} {step : α -> Except ε β} {results : List β}
    (last : IsLast P items item) (run : items.mapM step = .ok results)
    (same : ∀ item result, step item = .ok result -> (P item ↔ Q result)) :
    ∃ result, step item = .ok result ∧ IsLast Q results result := by
  obtain ⟨earlier, later, rfl, holds, none⟩ := last
  rw [List.mapM_append] at run
  obtain ⟨before, -, rest⟩ := Outcome.bind_eq_ok.mp run
  obtain ⟨from_, ran, joined⟩ := Outcome.bind_eq_ok.mp rest
  rw [List.mapM_cons] at ran
  obtain ⟨result, own, others⟩ := Outcome.bind_eq_ok.mp ran
  obtain ⟨behind, laters, consed⟩ := Outcome.bind_eq_ok.mp others
  cases consed
  cases joined
  refine ⟨result, own, before, behind, rfl, (same item result own).mp holds, ?_⟩
  intro other member held
  obtain ⟨source, within, made⟩ := Outcome.map_steps_source laters member
  exact none source within ((same source other made).mpr held)

end IsLast

end Last

namespace Reply

open Outcome (bind_eq_ok)
open Result (Column Table)
open Wire (StatementResult)

variable {batch : Batch} {reply : Reply} {result : StatementResult}

/-- The scalar looks for rows among the results that were executed, from the last on. -/
theorem last_with_rows_eq (reply : Reply) :
    lastWithRows reply.results =
      reply.executed.reverse.find? fun result => !result.rows.isEmpty := by
  rw [lastWithRows, executed, ← List.filterMap_reverse]
  induction reply.results.reverse with
  | nil => rfl
  | cons result? earlier ih =>
      cases result? with
      | none =>
          rw [List.findSome?_cons_of_isNone rfl, ih, List.filterMap_cons_none rfl]
      | some result =>
          rw [List.filterMap_cons_some (f := id) rfl]
          cases rows : result.rows.isEmpty with
          | true =>
              simp only [List.findSome?_cons, Option.filter_some, List.find?_cons, rows,
                Bool.not_true, Bool.false_eq_true, if_false, ih]
          | false =>
              simp only [List.findSome?_cons, Option.filter_some, List.find?_cons, rows,
                Bool.not_false, if_true]

theorem last_with_rows_of_last
    (last : IsLast (fun result => result.rows ≠ []) reply.executed result) :
    lastWithRows reply.results = some result := by
  obtain ⟨earlier, later, split, rows, none⟩ := last
  rw [last_with_rows_eq, split, List.find?_eq_some_iff_append]
  refine ⟨by simpa using rows, later.reverse, earlier.reverse, ?_, ?_⟩
  · rw [List.reverse_append, List.reverse_cons, List.append_assoc, List.singleton_append]
  · intro other member
    have empty := not_not.mp (none other (List.mem_reverse.mp member))
    rw [empty]
    rfl

theorem last_with_rows_none (without : ∀ result ∈ reply.executed, ¬result.rows ≠ []) :
    lastWithRows reply.results = none := by
  rw [last_with_rows_eq, List.find?_eq_none]
  intro result member
  rw [not_not.mp (without result (List.mem_reverse.mp member))]
  nofun

theorem scalar_of_last {value : Value}
    (last : IsLast (fun result => result.rows ≠ []) reply.executed result)
    (decoded : Wire.decodeCell .anything result.firstCell = .ok value) :
    scalar batch reply = .ok (orZero batch.sql value) := by
  rw [scalar_eq, last_with_rows_of_last last]
  dsimp only
  rw [decoded]
  rfl

theorem scalar_without_rows (without : ∀ result ∈ reply.executed, ¬result.rows ≠ []) :
    ∃ value, scalar batch reply = .ok value := by
  rw [scalar_eq, last_with_rows_none without]
  exact ⟨_, rfl⟩

theorem table_has_rows_iff {table : Table} (made : Reply.table batch reply result = .ok table) :
    result.rows ≠ [] ↔ table.rows ≠ [] := by
  have height := (table_of_result made).height
  rw [← List.length_pos_iff, ← List.length_pos_iff, height]

/-- The first cell of the table of a result that has rows and columns. -/
theorem first_cell_of_table {table : Table} (made : Reply.table batch reply result = .ok table)
    (rows : result.rows ≠ []) (columns : result.columns ≠ []) :
    ∃ column row cell, table.columns[0]? = some column ∧ table.rows[0]? = some row ∧
      row[0]? = some cell ∧ readCell column.type result.firstCell = .ok cell := by
  obtain ⟨width, built⟩ := table_rows made
  have wide : 0 < (columnsOf result).length := by
    rw [columns_width]
    exact List.length_pos_iff.mpr columns
  have first : (columnsOf result)[0]? = some (columnsOf result)[0] := List.getElem?_eq_getElem wide
  cases shape : result.rows with
  | nil => exact absurd shape rows
  | cons raw later =>
      rw [shape] at built
      obtain ⟨row, stands, read⟩ := Outcome.map_steps_at built (List.getElem?_cons_zero)
      obtain ⟨cell, own, found⟩ := (row_cells read).2 0 _ first
      have opening : result.firstCell = raw[0]?.getD .null := by
        rw [StatementResult.firstCell, shape]
        cases raw with
        | nil => rfl
        | cons cell cells => rfl
      rw [width, opening]
      exact ⟨_, row, cell, first, stands, own, found⟩

theorem coerce_undeclared {table : Table} {column : Column} {value : Value}
    (made : Reply.table batch reply result = .ok table) (member : column ∈ table.columns)
    (undeclared : column.declared? = none) : coerce column.type value = .ok value := by
  rw [(table_rows made).1] at member
  obtain ⟨type, -⟩ := Column.declared_from member
  rw [type, undeclared]
  rfl

/-- A text that counts rows, or looks into the schema. -/
def AsksForExistence (sql : Text) : Prop :=
  "COUNT(*)".toList <:+: sql ∨ "sqlite_master".toList <:+: sql

theorem asks_for_existence_iff {sql : Text} :
    asksForExistence sql = true ↔ AsksForExistence sql := by
  rw [asksForExistence, Bool.or_eq_true, Text.contains_iff, Text.contains_iff]
  rfl

theorem or_zero_of_null {sql : Text} (asks : AsksForExistence sql) : orZero sql .null = .int 0 := by
  rw [orZero, asks_for_existence_iff.mpr asks]
  rfl

theorem or_zero_of_not {sql : Text} {value : Value}
    (not : ¬(value = .null ∧ AsksForExistence sql)) : orZero sql value = value := by
  rw [orZero, if_neg]
  intro both
  obtain ⟨null, asks⟩ := Bool.and_eq_true_iff.mp both
  cases value with
  | null => exact not ⟨rfl, asks_for_existence_iff.mp asks⟩
  | _ => cases null

/-- The scalar of a reply and its tables show one value. -/
structure Agree (batch : Batch) (reply : Reply) (found : Tables) (value : Value) : Prop where
  /-- It is the first cell of the last result with rows. -/
  read : ∃ result, IsLast (fun result => result.rows ≠ []) reply.executed result ∧
    Wire.decodeCell .anything result.firstCell = .ok value
  zero : value = .null -> AsksForExistence batch.sql -> scalar batch reply = .ok (.int 0)
  scalar : ¬(value = .null ∧ AsksForExistence batch.sql) -> Reply.scalar batch reply = .ok value
  /-- The last table with rows begins with it, brought to the type of its column. -/
  cell : ∃ table column row cell, IsLast (fun table => table.rows ≠ []) found.tables table ∧
    table.columns[0]? = some column ∧ table.rows[0]? = some row ∧ row[0]? = some cell ∧
    coerce column.type value = .ok cell ∧ (column.declared? = none -> cell = value)

theorem agree_of_last {found : Tables} (answered : reply.response.entries ≠ [])
    (columned : ∀ result ∈ reply.executed, result.rows ≠ [] -> result.columns ≠ [])
    (made : Reply.tables batch reply = .ok found)
    (last : IsLast (fun result => result.rows ≠ []) reply.executed result) :
    ∃ value, Agree batch reply found value := by
  have kept : IsLast (fun result => result.rows ≠ [])
      (reply.executed.filter fun result => !result.columns.isEmpty) result :=
    last.filter fun other member rows => by simpa using columned other member rows
  obtain ⟨table, built, lastTable⟩ :=
    kept.of_steps (tables_made answered made).1 fun _ _ each => table_has_rows_iff each
  have rows := last.holds
  obtain ⟨column, row, cell, first, top, own, read⟩ :=
    first_cell_of_table built rows (columned result last.mem rows)
  obtain ⟨value, decoded, brought⟩ := bind_eq_ok.mp read
  have shown : Reply.scalar batch reply = .ok (orZero batch.sql value) :=
    scalar_of_last last decoded
  refine ⟨value, ⟨result, last, decoded⟩, ?_, ?_, ?_⟩
  · rintro rfl asks
    rw [shown, or_zero_of_null asks]
  · intro not
    rw [shown, or_zero_of_not not]
  · refine ⟨table, column, row, cell, lastTable, first, top, own, brought, fun undeclared => ?_⟩
    have same : coerce column.type value = .ok value :=
      coerce_undeclared built (List.mem_of_getElem? first) undeclared
    exact Except.ok.inj (brought.symm.trans same)

/-- Where the tables of a reply with entries can be read, so can its scalar, and both show the first
cell of the last result with rows, if all results with rows have columns. -/
theorem scalar_agrees_with_tables {batch : Batch} {reply : Reply} {found : Tables}
    (answered : reply.response.entries ≠ [])
    (columned : ∀ result ∈ reply.executed, result.rows ≠ [] -> result.columns ≠ [])
    (made : Reply.tables batch reply = .ok found) :
    (∃ value, Reply.scalar batch reply = .ok value) ∧
      ((∃ result ∈ reply.executed, result.rows ≠ []) ->
        ∃ value, Agree batch reply found value) := by
  by_cases some : ∃ result ∈ reply.executed, result.rows ≠ []
  · obtain ⟨result, last⟩ := exists_last some
    obtain ⟨value, agree⟩ := agree_of_last answered columned made last
    refine ⟨?_, fun _ => ⟨value, agree⟩⟩
    by_cases zero : value = .null ∧ AsksForExistence batch.sql
    · exact ⟨_, agree.zero zero.1 zero.2⟩
    · exact ⟨_, agree.scalar zero⟩
  · have without : ∃ value, Reply.scalar batch reply = .ok value :=
      scalar_without_rows fun result member rows => some ⟨result, member, rows⟩
    exact ⟨without, fun own => absurd own some⟩

/-- A number written as a text in a column that declares integers. -/
def numeralResult : StatementResult :=
  ⟨[⟨some "n", some "integer"⟩], [[.dict [("type", .text "text"), ("value", .text "7")]], []], 0,
    none⟩

/-- A result with rows before one that has columns only. -/
def numeral : Reply :=
  ⟨⟨none, none, [⟨none, some ⟨"execute", some numeralResult⟩, none⟩,
    ⟨none, some ⟨"execute", some ⟨[⟨some "m", none⟩], [], 0, none⟩⟩, none⟩]⟩, [], [], 200⟩

theorem scalar_agrees_with_tables_numeral :
    numeral.response.entries ≠ [] ∧
      (∀ result ∈ numeral.executed, result.rows ≠ [] -> result.columns ≠ []) ∧
      ∃ found, Reply.tables ⟨[], [], .null, .null⟩ numeral = .ok found ∧
        (∃ value, scalar ⟨[], [], .null, .null⟩ numeral = .ok value) ∧
        ∃ value, Agree ⟨[], [], .null, .null⟩ numeral found value := by
  have answered : numeral.response.entries ≠ [] := List.cons_ne_nil _ _
  have columned : ∀ result ∈ numeral.executed, result.rows ≠ [] -> result.columns ≠ [] := by
    intro result member rows
    rcases List.mem_cons.mp member with rfl | member
    · exact List.cons_ne_nil _ _
    · rw [List.mem_singleton.mp member]
      exact List.cons_ne_nil _ _
  obtain ⟨found, made⟩ : ∃ found, Reply.tables ⟨[], [], .null, .null⟩ numeral = .ok found :=
    ⟨⟨_, _⟩, rfl⟩
  obtain ⟨read, agree⟩ := scalar_agrees_with_tables answered columned made
  have some : ∃ result ∈ numeral.executed, result.rows ≠ [] :=
    ⟨numeralResult, List.mem_cons_self, List.cons_ne_nil _ _⟩
  exact ⟨answered, columned, found, made, read, agree some⟩

example : scalar ⟨[], [], .null, .null⟩ numeral = .ok (.text "7") := rfl

example : coerce (.ofDeclared (some "integer")) (.text "7") = .ok (.int 7) := rfl

end Reply
end SqlPipeline
