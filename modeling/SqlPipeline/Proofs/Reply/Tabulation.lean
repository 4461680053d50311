import Mathlib.Algebra.Ring.Int.Defs
import SqlPipeline.Proofs.Outcome
import SqlPipeline.Proofs.Result.Regular
import SqlPipeline.Reply.Tables

/-!
The tables of a reply. There is one for each result with columns, with the columns and the rows of
that result in order; a row gets a cell for each column, null where the result has none, and columns
are found by name in every letter case.
-/

namespace SqlPipeline
namespace Reply

open Result (CellType Column Row Table)

/-- A table has the columns and the rows of a result. -/
structure IsTableOf (result : Wire.StatementResult) (table : Table) : Prop where
  width : table.columns.length = result.columns.length
  height : table.rows.length = result.rows.length
  /-- A row has a cell for each column: what is read from the result, and null where it has none. -/
  cells : ∀ (index : Nat) raw values, result.rows[index]? = some raw ->
    table.rows[index]? = some values -> values.length = table.columns.length ∧
      ∀ (ordinal : Nat) column, table.columns[ordinal]? = some column ->
        ∃ value, values[ordinal]? = some value ∧
          (∀ cell, raw[ordinal]? = some cell -> readCell column.type cell = .ok value) ∧
          (raw.length ≤ ordinal -> value = .null)
  distinct : (table.names.map Text.lower).Nodup
  /-- Each spelling of a name in other letter cases finds its column. -/
  found : ∀ (ordinal : Nat) name spelling, table.names[ordinal]? = some name ->
    Text.lower spelling = Text.lower name -> table.ordinal spelling = .ok ordinal
  /-- A row by name has one entry for each column. -/
  named : ∀ values ∈ table.rows, ∃ entries, Row.toMembers ⟨table, values⟩ = .ok entries ∧
    entries.map Prod.fst = table.names ∧ entries.map Prod.snd = values

section

variable {batch : Batch} {reply : Reply}

theorem read_missing (type : CellType) : readCell type .null = .ok .null := by
  cases type <;> rfl

theorem read_of_cell {raw : List Value} {column : Column} {ordinal : Nat} {value : Value}
    (made : cell batch reply raw column ordinal = .ok value) :
    readCell column.type (raw[ordinal]?.getD .null) = .ok value := by
  rw [cell] at made
  cases read : readCell column.type (raw[ordinal]?.getD .null) with
  | ok found =>
      rw [read] at made
      rw [Except.ok.inj made]
  | error fault =>
      rw [read] at made
      by_cases content : fault.isContent = true
      · simp only [content, if_true, reduceCtorEq] at made
      · simp only [content, Bool.false_eq_true, if_false, reduceCtorEq] at made

/-- What a row of a table holds for a row of a result. -/
theorem row_cells {columns : List Column} {raw values : List Value}
    (made : row batch reply columns raw = .ok values) :
    values.length = columns.length ∧
      ∀ (ordinal : Nat) column, columns[ordinal]? = some column ->
        ∃ value, values[ordinal]? = some value ∧
          readCell column.type (raw[ordinal]?.getD .null) = .ok value := by
  constructor
  · rw [Outcome.map_steps_length made, List.length_zipIdx]
  · intro ordinal column position
    have numbered : columns.zipIdx[ordinal]? = some (column, ordinal) := by
      rw [List.getElem?_zipIdx, position, Option.map_some, Nat.zero_add]
    obtain ⟨value, stands, read⟩ := Outcome.map_steps_at made numbered
    exact ⟨value, stands, read_of_cell read⟩

theorem columns_width (result : Wire.StatementResult) :
    (columnsOf result).length = result.columns.length := by
  rw [columnsOf, Column.distinct, Column.length_distinct_from, List.length_map]

/-- Each row of a table is made of the row of the result at its place. -/
theorem table_rows {result : Wire.StatementResult} {table : Table}
    (made : Reply.table batch reply result = .ok table) :
    table.columns = columnsOf result ∧
      result.rows.mapM (row batch reply (columnsOf result)) = .ok table.rows := by
  obtain ⟨rows, read, same⟩ := Outcome.bind_eq_ok.mp made
  cases same
  exact ⟨rfl, read⟩

theorem table_regular {result : Wire.StatementResult} {table : Table}
    (made : Reply.table batch reply result = .ok table) : table.IsRegular := by
  obtain ⟨columns, rows⟩ := table_rows made
  constructor
  · rw [columns]
    exact Column.names_distinct _
  · intro values member
    obtain ⟨raw, _, built⟩ := Outcome.map_steps_source rows member
    rw [columns]
    exact (row_cells built).1

theorem table_of_result {result : Wire.StatementResult} {table : Table}
    (made : Reply.table batch reply result = .ok table) : IsTableOf result table := by
  have regular := table_regular made
  obtain ⟨columns, rows⟩ := table_rows made
  refine ⟨?_, Outcome.map_steps_length rows, ?_, ?_, ?_, ?_⟩
  · rw [columns, columns_width]
  · intro index raw values position stands
    obtain ⟨again, standsToo, built⟩ := Outcome.map_steps_at rows position
    cases stands.symm.trans standsToo
    obtain ⟨wide, cells⟩ := row_cells built
    refine ⟨columns ▸ wide, ?_⟩
    intro ordinal column named
    obtain ⟨value, found, read⟩ := cells ordinal column (columns ▸ named)
    refine ⟨value, found, ?_, ?_⟩
    · intro cell present
      rwa [present] at read
    · intro beyond
      rw [List.getElem?_eq_none beyond, Option.getD_none, read_missing] at read
      exact (Except.ok.inj read).symm
  · rw [Table.IsRegular.lower_names_eq]
    exact regular.distinct
  · intro ordinal name spelling named same
    exact regular.ordinal_of_spelling named same
  · intro values member
    have size : table.names.length = values.length := by
      rw [Table.names, List.length_map, regular.wide values member]
    exact ⟨_, regular.to_members member, List.map_fst_zip (Nat.le_of_eq size),
      List.map_snd_zip (Nat.le_of_eq size.symm)⟩

/-- Counts that are not negative add up; a count starts only at the first of them. -/
theorem affected_count_from {results : List Wire.StatementResult} {start : Int}
    (counts : ∀ result ∈ results, result.columns.isEmpty = true -> 0 ≤ result.affected) :
    results.foldl (fun count result =>
        if result.columns.isEmpty then max count 0 + result.affected else count) start =
      if (results.filter fun result => result.columns.isEmpty).isEmpty then start
      else max start 0 +
        ((results.filter fun result => result.columns.isEmpty).map fun result =>
          result.affected).sum := by
  induction results generalizing start with
  | nil => rfl
  | cons result results ih =>
      have later : ∀ next ∈ results, next.columns.isEmpty = true -> 0 ≤ next.affected :=
        fun next member => counts next (List.mem_cons_of_mem result member)
      rw [List.foldl_cons, ih later]
      cases empty : result.columns.isEmpty with
      | false => simp only [List.filter_cons, empty, Bool.false_eq_true, if_false]
      | true =>
          have positive := counts result List.mem_cons_self empty
          simp only [List.filter_cons, empty, if_true, List.isEmpty_cons, Bool.false_eq_true,
            if_false, List.map_cons, List.sum_cons]
          by_cases last : (results.filter fun result => result.columns.isEmpty).isEmpty = true
          · rw [if_pos last, List.isEmpty_iff.mp last]
            simp
          · have above : 0 ≤ max start 0 + result.affected :=
              Int.add_nonneg (Int.le_max_right start 0) positive
            rw [if_neg last, Int.max_eq_left above, Int.add_assoc]

theorem affected_count_eq {results : List Wire.StatementResult}
    (counts : ∀ result ∈ results, result.columns.isEmpty = true -> 0 ≤ result.affected) :
    affectedCount results =
      if (results.filter fun result => result.columns.isEmpty).isEmpty then -1
      else ((results.filter fun result => result.columns.isEmpty).map fun result =>
        result.affected).sum := by
  have start : max (-1 : Int) 0 = 0 := rfl
  rw [affectedCount, affected_count_from counts, start, Int.zero_add]

/-- The tables of a reply with entries are made of its results with columns, one by one. -/
theorem tables_made {found : Tables} (answered : reply.response.entries ≠ [])
    (made : Reply.tables batch reply = .ok found) :
    (reply.executed.filter fun result => !result.columns.isEmpty).mapM (table batch reply) =
        .ok found.tables ∧ found.affected = affectedCount reply.executed := by
  have notEmpty : ¬reply.response.entries.isEmpty = true := by simpa using answered
  rw [Reply.tables, if_neg notEmpty] at made
  obtain ⟨tables, built, same⟩ := Outcome.bind_eq_ok.mp made
  cases same
  exact ⟨built, rfl⟩

end

/-- The tables of a reply with entries are those of its results with columns, one for each and in
order. Results without columns add up to the rows affected, and -1 tells that there are none. -/
theorem tables_are_rectangular {batch : Batch} {reply : Reply} {found : Tables}
    (answered : reply.response.entries ≠ []) (made : Reply.tables batch reply = .ok found) :
    List.Forall₂ IsTableOf (reply.executed.filter fun result => !result.columns.isEmpty)
        found.tables ∧
      ((∀ result ∈ reply.executed, result.columns.isEmpty = true -> 0 ≤ result.affected) ->
        found.affected =
          if (reply.executed.filter fun result => result.columns.isEmpty).isEmpty then -1
          else ((reply.executed.filter fun result => result.columns.isEmpty).map fun result =>
            result.affected).sum) := by
  obtain ⟨built, affected⟩ := tables_made answered made
  constructor
  · exact (Outcome.map_steps_iff.mp built).imp fun _ _ each => table_of_result each
  · intro counts
    rw [affected, affected_count_eq counts]

/-- Columns whose names are alike, missing, or numbered already, over rows that are too short and too
long. -/
def raggedResult : Wire.StatementResult :=
  ⟨[⟨some "a", none⟩, ⟨some "A", none⟩, ⟨none, none⟩, ⟨some "a_1", none⟩],
    [[], [.null, .null, .null, .null, .null]], 0, none⟩

def countResult : Wire.StatementResult := ⟨[], [], 2, none⟩

def ragged : Reply :=
  ⟨⟨none, none, [⟨none, some ⟨"execute", some raggedResult⟩, none⟩,
    ⟨none, some ⟨"execute", some countResult⟩, none⟩]⟩, [], [], 200⟩

theorem tables_are_rectangular_ragged :
    ragged.response.entries ≠ [] ∧ ∃ found,
      Reply.tables ⟨[], [], .null, .null⟩ ragged = .ok found ∧
      List.Forall₂ IsTableOf [raggedResult] found.tables ∧ found.affected = 2 := by
  have answered : ragged.response.entries ≠ [] := List.cons_ne_nil _ _
  have counts : ∀ result ∈ ragged.executed, result.columns.isEmpty = true ->
      0 ≤ result.affected := by
    intro result member empty
    rcases List.mem_cons.mp member with rfl | member
    · exact Int.le_refl 0
    · rw [List.mem_singleton.mp member]
      decide
  obtain ⟨found, made⟩ : ∃ found, Reply.tables ⟨[], [], .null, .null⟩ ragged = .ok found :=
    ⟨⟨_, _⟩, rfl⟩
  obtain ⟨tables, affected⟩ := tables_are_rectangular answered made
  exact ⟨answered, found, made, tables, affected counts⟩

example : (columnsOf raggedResult).map Result.Column.name =
    ["a".toList, "A_1".toList, "Column2".toList, "a_1_1".toList] := by decide

end Reply
end SqlPipeline
