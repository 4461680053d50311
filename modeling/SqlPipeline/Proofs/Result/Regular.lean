import SqlPipeline.Proofs.Members
import SqlPipeline.Proofs.Result.Naming
import SqlPipeline.Result.Row

/-!
Regular tables: every row has a cell for each column, and the columns are told apart in every letter
case. A column of such a table is found by each spelling of its name, and a row by name loses none of
its cells.
-/

namespace SqlPipeline

namespace Result

structure Table.IsRegular (table : Table) : Prop where
  distinct : (table.columns.map Column.lowerName).Nodup
  wide : ∀ values ∈ table.rows, values.length = table.columns.length

namespace Table.IsRegular

variable {table : Table}

theorem lower_names_eq (table : Table) :
    table.names.map Text.lower = table.columns.map Column.lowerName := by
  rw [names, List.map_map]
  rfl

/-- Columns whose names are alike in lower case are one column. -/
theorem position_unique (regular : table.IsRegular) {first second : Nat} {name other : Text}
    (named : table.names[first]? = some name) (namedToo : table.names[second]? = some other)
    (same : Text.lower name = Text.lower other) : first = second := by
  have distinct := regular.distinct
  rw [← lower_names_eq] at distinct
  have inside : first < (table.names.map Text.lower).length := by
    rw [List.length_map]
    exact (List.getElem?_eq_some_iff.mp named).1
  apply (List.getElem?_inj inside distinct).mp
  rw [List.getElem?_map, List.getElem?_map, named, namedToo, Option.map_some, Option.map_some, same]

theorem found_at {P : Text -> Bool} {position : Nat}
    (found : (table.columns.findIdx? fun column => P column.name) = some position) :
    ∃ name, table.names[position]? = some name ∧ P name = true := by
  obtain ⟨inside, holds, _⟩ := List.findIdx?_eq_some_iff_getElem.mp found
  refine ⟨table.columns[position].name, ?_, holds⟩
  rw [names, List.getElem?_map, List.getElem?_eq_getElem inside, Option.map_some]

/-- A name finds its column in every letter case. -/
theorem ordinal_of_spelling (regular : table.IsRegular) {index : Nat} {name spelling : Text}
    (named : table.names[index]? = some name) (same : Text.lower spelling = Text.lower name) :
    table.ordinal spelling = .ok index := by
  have found : table.ordinal? spelling = some index := by
    rw [ordinal?]
    cases exact_ : table.columns.findIdx? fun column => column.name = spelling with
    | some position =>
        obtain ⟨other, namedToo, equal⟩ :=
          found_at (P := fun name => decide (name = spelling)) exact_
        rw [decide_eq_true_eq] at equal
        rw [Option.some_or, position_unique regular namedToo named (equal ▸ same)]
    | none =>
        cases loose : table.columns.findIdx? fun column =>
            Text.lower column.name = Text.lower spelling with
        | some position =>
            obtain ⟨other, namedToo, equal⟩ :=
              found_at (P := fun name => decide (Text.lower name = Text.lower spelling)) loose
            rw [decide_eq_true_eq] at equal
            rw [Option.none_or, position_unique regular namedToo named (equal.trans same)]
        | none =>
            rw [List.findIdx?_eq_none_iff] at loose
            rw [names, List.getElem?_map, Option.map_eq_some_iff] at named
            obtain ⟨column, position, rfl⟩ := named
            have differs := loose column (List.mem_of_getElem? position)
            rw [decide_eq_false_iff_not] at differs
            exact absurd same.symm differs
  rw [ordinal, found]

/-- A row by name has one entry for each column, with its cell. -/
theorem to_members (regular : table.IsRegular) {values : List Value} (member : values ∈ table.rows) :
    Row.toMembers ⟨table, values⟩ = .ok (table.names.zip values) := by
  have size : table.names.length = values.length := by
    rw [names, List.length_map, regular.wide values member]
  have keys : (table.names.zip values).map Prod.fst = table.names :=
    List.map_fst_zip (Nat.le_of_eq size)
  have distinct : table.names.Nodup := by
    have lowered := regular.distinct
    rw [← lower_names_eq] at lowered
    exact lowered.of_map _
  rw [Row.toMembers]
  refine (if_pos size).trans ?_
  rw [Row.names, Members.of_list_distinct (keys.symm ▸ distinct)]

end Table.IsRegular
end Result
end SqlPipeline
