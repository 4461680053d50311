import SqlPipeline.Proofs.Reply.Escape
import SqlPipeline.Proofs.Reply.Tabulation
import SqlPipeline.Proofs.Result.Holding
import SqlPipeline.Proofs.Wire.Contents

/-!
What the tables of a reply hold. A decoded cell that is brought to the type of its column stays a value
that a cell can hold, so that a reader of the tables shows no other.
-/

namespace SqlPipeline
namespace Reply

open Result (CellType Reader Table)
open Value (IsCell)

theorem coerce_integer_cell {value : Value} (cell : value.IsCell) : (coerceInteger value).IsCell := by
  cases value with
  | text s =>
      apply Value.or_null_cell
      exact fun n found => Numeral.integer_bound found
  | real x =>
      rw [coerceInteger]
      split
      · apply Value.or_null_cell
        exact fun n found => Value.truncate_bound found
      · exact cell
  | _ => exact cell

theorem decode_real_cell {raw value : Value} (decoded : Wire.decodeReal raw = .ok value) :
    value.IsCell := by
  unfold Wire.decodeReal at decoded
  split at decoded
  · cases decoded
    exact .real _
  · cases decoded
  · cases decoded
    exact .null

theorem expect_stamp_cell {given value : Value} (expected : Wire.expectStamp given = .ok value) :
    value.IsCell := by
  cases given with
  | text s =>
      unfold Wire.expectStamp at expected
      dsimp only at expected
      split at expected
      · cases expected
        exact .stamp _
      · cases expected
        exact .null
      · cases expected
  | _ =>
      cases expected
      exact .null

theorem coerce_cell {type : CellType} {given value : Value} (cell : given.IsCell)
    (coerced : coerce type given = .ok value) : value.IsCell := by
  cases type with
  | integer =>
      cases coerced
      exact coerce_integer_cell cell
  | real =>
      change coerceReal given = .ok value at coerced
      unfold coerceReal at coerced
      split at coerced
      · exact decode_real_cell coerced
      · exact decode_real_cell coerced
      · exact decode_real_cell coerced
      · cases coerced
        exact cell
  | stamp =>
      change coerceStamp given = .ok value at coerced
      unfold coerceStamp at coerced
      split at coerced
      · exact expect_stamp_cell coerced
      · cases coerced
        exact cell
  | _ =>
      cases coerced
      exact cell

theorem read_cell_cell {type : CellType} {cell value : Value} (received : Wire.IsReceived cell)
    (read : readCell type cell = .ok value) : value.IsCell := by
  obtain ⟨decoded, found, coerced⟩ := Outcome.bind_eq_ok.mp read
  exact coerce_cell (Wire.decode_cell_cell received found) coerced

variable {batch : Batch} {reply : Reply}

theorem table_holds {result : Wire.StatementResult} (received : result.IsReceived) {table : Table}
    (made : Reply.table batch reply result = .ok table) : table.Holds IsCell := by
  obtain ⟨columns, rows⟩ := table_rows made
  intro values member
  obtain ⟨raw, source, built⟩ := Outcome.map_steps_source rows member
  obtain ⟨wide, cells⟩ := row_cells built
  refine ⟨columns ▸ wide, ?_⟩
  intro value inside
  obtain ⟨ordinal, within, rfl⟩ := List.mem_iff_getElem.mp inside
  obtain ⟨own, stands, read⟩ :=
    cells ordinal _ (List.getElem?_eq_getElem (show ordinal < (columnsOf result).length from
      wide ▸ within))
  rw [List.getElem?_eq_getElem within] at stands
  cases stands
  refine read_cell_cell ?_ read
  cases found : raw[ordinal]? with
  | none => exact ⟨.null, .null, rfl⟩
  | some cell => exact received raw source cell (List.mem_of_getElem? found)

/-- The tables of a reply hold nothing but what cells can hold. -/
theorem tables_hold (received : reply.IsReceived) {found : Tables}
    (made : Reply.tables batch reply = .ok found) : ∀ table ∈ found.tables, table.Holds IsCell := by
  by_cases answered : reply.response.entries = []
  · rw [Reply.tables, answered] at made
    cases made
    intro table member values row
    rw [List.mem_singleton.mp member] at row ⊢
    rw [List.mem_singleton.mp row]
    refine ⟨rfl, ?_⟩
    intro value inside
    rw [List.mem_singleton.mp inside]
    exact .int (by decide +kernel)
  · obtain ⟨built, -⟩ := tables_made answered made
    intro table member
    obtain ⟨result, source, own⟩ := Outcome.map_steps_source built member
    apply table_holds _ own
    have given : some result ∈ reply.results := by
      obtain ⟨result?, stands, same⟩ := List.mem_filterMap.mp (List.mem_filter.mp source).1
      exact same ▸ stands
    exact result_received received given

/-- A reader of the tables of a reply, after any moves. -/
def IsReadBy (reply : Reply) (reader : Reader) : Prop :=
  ∃ batch found moves, Reply.tables batch reply = .ok found ∧
    ((Reader.ofTables found.tables found.affected).tour moves).2 = reader

/-- Such a reader shows what cells can hold, at the position of a column. -/
theorem shown_cell {reader : Reader} (received : reply.IsReceived) (reads : reply.IsReadBy reader)
    {ordinal : Int} {value : Value} (shown : reader.value ordinal = .ok value) :
    value.IsCell ∧ ∃ column, reader.column ordinal = .ok column := by
  obtain ⟨batch, found, moves, made, rfl⟩ := reads
  have start := Reader.of_tables_holds (tables_hold received made) found.affected
  exact (start.tour moves).value shown

end Reply
end SqlPipeline
