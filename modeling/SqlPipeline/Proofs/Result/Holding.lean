import SqlPipeline.Proofs.Result.Tour

/-!
What a reader holds. Whatever all cells of its tables are, so is the cell that it shows after any moves,
and that cell has a column.
-/

namespace SqlPipeline

theorem Position.item_ok_iff {α : Type} {items : List α} {index : Int} {found : α} :
    Position.item items index = .ok found ↔
      ∃ position, resolve? items.length index = some position ∧ items[position]? = some found := by
  rw [Position.item, ← Option.bind_eq_some_iff]
  cases (resolve? items.length index).bind fun position => items[position]? with
  | none => exact iff_of_false nofun nofun
  | some own => simp

namespace Result

/-- A table of rows that have a cell for each column, all cells being of a class. -/
def Table.Holds (P : Value -> Prop) (table : Table) : Prop :=
  ∀ values ∈ table.rows, values.length = table.columns.length ∧ ∀ value ∈ values, P value

namespace Reader

/-- A reader of such tables, whose current row and further rows are those of its table. -/
structure Holds (P : Value -> Prop) (reader : Reader) : Prop where
  tables : ∀ table ∈ reader.tables, table.Holds P
  current : ∀ values ∈ reader.current?, values ∈ rowsOf reader.tables
  pending : ∀ values ∈ reader.pending, values ∈ rowsOf reader.tables

section

variable {P : Value -> Prop} {reader : Reader}

theorem of_tables_holds {tables : List Table} (each : ∀ table ∈ tables, table.Holds P)
    (affected : Int) : (ofTables tables affected).Holds P :=
  ⟨each, nofun, fun _ member => member⟩

theorem Holds.advance (holds : reader.Holds P) : reader.advance.Holds P :=
  ⟨holds.tables, fun values member => holds.pending values (List.mem_of_mem_head? member),
    fun values member => holds.pending values (List.mem_of_mem_tail member)⟩

theorem Holds.past_rows (holds : reader.Holds P) : reader.pastRows.Holds P :=
  ⟨holds.tables, nofun, nofun⟩

theorem Holds.turned (holds : reader.Holds P) : reader.turned.Holds P :=
  ⟨fun table member => holds.tables table (List.mem_of_mem_tail member), nofun,
    fun _ member => member⟩

theorem Holds.close (holds : reader.Holds P) : reader.close.Holds P :=
  ⟨holds.tables, holds.current, holds.pending⟩

theorem read_leads {found : Bool} {after : Reader} (made : reader.read = .ok (found, after)) :
    after = reader.advance := by
  obtain ⟨-, -, same⟩ := Outcome.bind_eq_ok.mp made
  cases same
  rfl

theorem next_row_leads {row? : Option Row} {after : Reader}
    (made : reader.nextRow = .ok (row?, after)) : after = reader.advance := by
  obtain ⟨⟨found, next⟩, moved, rest⟩ := Outcome.bind_eq_ok.mp made
  rw [← read_leads moved]
  dsimp only at rest
  split_ifs at rest
  · obtain ⟨table, -, rest⟩ := Outcome.bind_eq_ok.mp rest
    obtain ⟨values, -, same⟩ := Outcome.bind_eq_ok.mp rest
    cases same
    rfl
  · cases rest
    rfl

/-- A move leads to the next row, past the rows, to the next table, or nowhere. -/
theorem Holds.make (holds : reader.Holds P) {move : Move} {events : List Event} {after : Reader}
    (made : reader.make move = .ok (events, after)) : after.Holds P := by
  cases move with
  | read =>
      obtain ⟨⟨found, next⟩, moved, rest⟩ := Outcome.bind_eq_ok.mp made
      have advanced := holds.advance
      rw [← read_leads moved] at advanced
      dsimp only at rest
      split_ifs at rest
      · obtain ⟨table, -, rest⟩ := Outcome.bind_eq_ok.mp rest
        obtain ⟨values, -, same⟩ := Outcome.bind_eq_ok.mp rest
        cases same
        exact advanced
      · cases rest
        exact advanced
  | nextRow =>
      obtain ⟨⟨row?, next⟩, moved, rest⟩ := Outcome.bind_eq_ok.mp made
      have advanced := holds.advance
      rw [← next_row_leads moved] at advanced
      dsimp only at rest
      split at rest
      · cases rest
        exact advanced
      · cases rest
        exact advanced
  | rows =>
      obtain ⟨⟨rows, next⟩, moved, rest⟩ := Outcome.bind_eq_ok.mp made
      obtain ⟨-, -, same⟩ := Outcome.bind_eq_ok.mp moved
      cases same
      cases rest
      exact holds.past_rows
  | nextResult =>
      obtain ⟨⟨more, next⟩, moved, rest⟩ := Outcome.bind_eq_ok.mp made
      obtain ⟨-, -, same⟩ := Outcome.bind_eq_ok.mp moved
      cases same
      cases rest
      exact holds.turned
  | value ordinal =>
      obtain ⟨value, -, same⟩ := Outcome.bind_eq_ok.mp made
      cases same
      exact holds
  | get target ordinal =>
      obtain ⟨value, -, same⟩ := Outcome.bind_eq_ok.mp made
      cases same
      exact holds
  | close =>
      cases made
      exact holds.close

theorem Holds.tour (holds : reader.Holds P) (moves : List Move) : (reader.tour moves).2.Holds P := by
  induction moves generalizing reader with
  | nil => exact holds
  | cons move later ih =>
      rw [Reader.tour]
      cases made : reader.make move with
      | error failure => exact ih holds
      | ok shown =>
          obtain ⟨events, after⟩ := shown
          exact ih (holds.make made)

/-- The cell at a position is of the class, and its position is that of a column too. -/
theorem Holds.value (holds : reader.Holds P) {ordinal : Int} {value : Value}
    (found : reader.value ordinal = .ok value) :
    P value ∧ ∃ column, reader.column ordinal = .ok column := by
  obtain ⟨values, shown, item⟩ := Outcome.bind_eq_ok.mp found
  obtain ⟨position, resolved, stands⟩ := Position.item_ok_iff.mp (Outcome.lift_eq_ok.mp item)
  obtain ⟨-, -, rest⟩ := Outcome.bind_eq_ok.mp shown
  obtain ⟨table, required, rest⟩ := Outcome.bind_eq_ok.mp rest
  cases current : reader.current? with
  | none =>
      rw [current] at rest
      cases rest
  | some row =>
      rw [current] at rest
      cases rest
      have inTable := holds.current values current
      have first : reader.tables.head? = some table := by
        unfold requireTable table? at required
        split at required
        · rename_i own given
          cases required
          exact given
        · cases required
      obtain ⟨later, all⟩ := List.head?_eq_some_iff.mp first
      rw [all] at inTable
      obtain ⟨wide, each⟩ :=
        holds.tables table (all ▸ List.mem_cons_self) values inTable
      refine ⟨each value (List.mem_of_getElem? stands), ?_⟩
      have inside : position < table.columns.length := by
        rw [← wide]
        exact (List.getElem?_eq_some_iff.mp stands).1
      have column : Position.item table.columns ordinal = .ok table.columns[position] := by
        rw [Position.item_ok_iff, ← wide]
        exact ⟨position, resolved, List.getElem?_eq_getElem inside⟩
      refine ⟨table.columns[position], Outcome.bind_eq_ok.mpr ⟨table, required, ?_⟩⟩
      rw [column]
      rfl

end

end Reader
end Result
end SqlPipeline
