import SqlPipeline.Proofs.Result.Naming
import SqlPipeline.Proofs.Value.Fidelity
import SqlPipeline.Reply.Tables
import SqlPipeline.Result.Reader

/-!
A server that answers with the arguments it was sent. When their columns declare no type, the table
holds what each cell decodes to, and the getters of a reader on a row give the bound values back.
-/

namespace SqlPipeline

open Cast (Target)
open Result (CellType Column Reader Table)

/-- A value with the content that it is sent as when nothing declares its type. -/
structure Bound where
  value : Value
  content : Wire.Content
  encoded : Wire.encodeContent (DbType.infer value) value = .ok content

namespace Bound

def cell (bound : Bound) : Value :=
  bound.content.cell

/-- What the cell of a bound value is decoded to. -/
def stored (bound : Bound) : Value :=
  match Wire.decodeCell .anything bound.cell with
  | .ok value => value
  | .error _ => .null

theorem decode_cell (bound : Bound) : Wire.decodeCell .anything bound.cell = .ok bound.stored := by
  obtain ⟨value, decoded⟩ := Wire.decode_encoded (Wire.encode_content_encoded bound.encoded)
  rw [stored, cell, decoded]

theorem stored_null {bound : Bound} (null : bound.value = .null) : bound.stored = .null := by
  have encoded := bound.encoded
  rw [null] at encoded
  have content : bound.content = .null := (Except.ok.inj encoded).symm
  rw [stored, cell, content]
  rfl

theorem stored_yields {bound : Bound} {target : Target} {got : Value}
    (reads : ReadsAs bound.value target got) : target.Yields bound.stored got := by
  obtain ⟨content, encoded, stored, decoded, yields⟩ := Wire.Content.carries_of_reads reads
  have same : content = bound.content := Except.ok.inj (encoded.symm.trans bound.encoded)
  subst same
  have found := bound.decode_cell
  rw [cell, decoded] at found
  rwa [← Except.ok.inj found]

end Bound

def Bound.null : Bound := ⟨.null, .null, rfl⟩

def Bound.text (s : Text) : Bound := ⟨.text s, .text s, rfl⟩

/-- A reply whose only result with columns holds the cells of bound values, in columns that declare
no type. -/
structure Echoes (reply : Reply) (result : Wire.StatementResult) (rows : List (List Bound)) :
    Prop where
  only : (reply.executed.filter fun result => !result.columns.isEmpty) = [result]
  undeclared : ∀ column ∈ result.columns, column.declared? = none
  cells : result.rows = rows.map fun row => row.map Bound.cell
  wide : ∀ row ∈ rows, row.length = result.columns.length

/-- The result that echoes rows of some width in columns without names. -/
def echoResult (width : Nat) (rows : List (List Bound)) : Wire.StatementResult :=
  ⟨List.replicate width ⟨none, none⟩, rows.map fun row => row.map Bound.cell, 0, none⟩

def echoReply (width : Nat) (rows : List (List Bound)) : Reply :=
  ⟨⟨none, none, [⟨none, some ⟨"execute", some (echoResult width rows)⟩, none⟩]⟩, [], [], 200⟩

theorem echo_reply_echoes {width : Nat} {rows : List (List Bound)} (positive : 0 < width)
    (wide : ∀ row ∈ rows, row.length = width) :
    Echoes (echoReply width rows) (echoResult width rows) rows where
  only := by
    have executed : (echoReply width rows).executed = [echoResult width rows] := rfl
    have columns : (echoResult width rows).columns.isEmpty = false := by
      simp [echoResult, Nat.ne_of_gt positive]
    rw [executed, List.filter_cons, columns]
    rfl
  undeclared := by simp [echoResult]
  cells := rfl
  wide := by
    intro row member
    rw [wide row member, echoResult, List.length_replicate]

namespace Result.Column

theorem undeclared_from_text {pairs : List (Option Text × Option Text)}
    (undeclared : ∀ pair ∈ pairs, pair.2 = none) (position : Nat) (taken : List Text) :
    ∀ column ∈ distinctFrom position taken pairs, column.type = .text := by
  intro column member
  obtain ⟨type, pair, inside, declared⟩ := declared_from member
  rw [type, declared, undeclared pair inside]
  rfl

end Result.Column

namespace Reply

theorem cell_of_bound (batch : Batch) (reply : Reply) {row : List Bound} {bound : Bound}
    {column : Column} {ordinal : Nat} (text : column.type = .text)
    (found : row[ordinal]? = some bound) :
    cell batch reply (row.map Bound.cell) column ordinal = .ok bound.stored := by
  have raw : (row.map Bound.cell)[ordinal]?.getD .null = bound.cell := by
    rw [List.getElem?_map, found, Option.map_some, Option.getD_some]
  have read : readCell column.type bound.cell = .ok bound.stored := by
    rw [readCell, bound.decode_cell, text]
    rfl
  rw [cell, raw, read]

/-- In columns of text, one for each of them, cells come out as they are stored. -/
theorem row_of_bounds (batch : Batch) (reply : Reply) {columns : List Column} {row : List Bound}
    (text : ∀ column ∈ columns, column.type = .text) (wide : row.length = columns.length) :
    Reply.row batch reply columns (row.map Bound.cell) = .ok (row.map Bound.stored) := by
  have steps : Reply.row batch reply columns (row.map Bound.cell) =
      .ok (columns.zipIdx.map fun pair => (row[pair.2]?.map Bound.stored).getD .null) := by
    apply Outcome.map_steps_ok
    rintro ⟨column, ordinal⟩ member
    have position := List.mem_zipIdx_iff_getElem?.mp member
    have inside : ordinal < row.length := by
      rw [wide]
      exact (List.getElem?_eq_some_iff.mp position).1
    rw [List.getElem?_eq_getElem inside]
    exact cell_of_bound batch reply (text column (List.mem_of_getElem? position))
      (List.getElem?_eq_getElem inside)
  rw [steps]
  congr 1
  apply List.ext_getElem
  · simp [wide]
  · intro index left right
    rw [List.length_map] at right
    simp [right]

theorem echo_columns {reply : Reply} {result : Wire.StatementResult} {rows : List (List Bound)}
    (echoes : Echoes reply result rows) :
    (columnsOf result).length = result.columns.length ∧
      ∀ column ∈ columnsOf result, column.type = .text := by
  constructor
  · rw [columnsOf, Column.distinct, Column.length_distinct_from, List.length_map]
  · apply Column.undeclared_from_text
    simpa using echoes.undeclared

theorem echo_table (batch : Batch) {reply : Reply} {result : Wire.StatementResult}
    {rows : List (List Bound)} (echoes : Echoes reply result rows) :
    table batch reply result =
      .ok ⟨columnsOf result, rows.map fun row => row.map Bound.stored⟩ := by
  obtain ⟨size, text⟩ := echo_columns echoes
  have cells : result.rows.mapM (Reply.row batch reply (columnsOf result)) =
      .ok (rows.map fun row => row.map Bound.stored) := by
    rw [echoes.cells, List.mapM_map]
    apply Outcome.map_steps_ok
    intro row member
    exact row_of_bounds batch reply text (by rw [echoes.wide row member, size])
  rw [table, cells]
  rfl

theorem echo_tables (batch : Batch) {reply : Reply} {result : Wire.StatementResult}
    {rows : List (List Bound)} (echoes : Echoes reply result rows) :
    reply.tables batch =
      .ok ⟨[⟨columnsOf result, rows.map fun row => row.map Bound.stored⟩],
        affectedCount reply.executed⟩ := by
  have some : reply.response.entries.isEmpty = false := by
    have only := echoes.only
    cases entries : reply.response.entries with
    | nil => simp [executed, results, entries] at only
    | cons entry rest => rfl
  have one : [result].mapM (table batch reply) =
      .ok [⟨columnsOf result, rows.map fun row => row.map Bound.stored⟩] := by
    rw [List.mapM_cons, echo_table batch echoes]
    rfl
  rw [tables, some, echoes.only]
  simp only [Bool.false_eq_true, if_false, one]
  rfl

end Reply

theorem Position.item_of_nat {items : List α} {index : Nat} {found : α}
    (position : items[index]? = some found) : Position.item items index = .ok found := by
  have inside : index < items.length := (List.getElem?_eq_some_iff.mp position).1
  have notNegative : ¬(index : Int) < 0 := by omega
  have resolved : resolve? items.length index = some index := by
    simp only [resolve?, if_neg notNegative, Int.toNat_natCast]
    exact if_pos (by omega)
  rw [item, resolved, Option.bind_some, position]

namespace Result.Reader

/-- Reads so many rows, and tells whether there was one each time. -/
def readTimes : Nat -> Reader -> Outcome (Bool × Reader)
  | 0, reader => .ok (true, reader)
  | count + 1, reader => do
      let (found, next) ← reader.read
      if found then readTimes count next else .ok (false, next)

theorem read_pending {reader : Reader} {values : List Value} {later : List (List Value)}
    (opened : reader.isClosed = false) (pending : reader.pending = values :: later) :
    reader.read = .ok (true, { reader with current? := some values, pending := later }) := by
  have advanced : reader.advance = { reader with current? := some values, pending := later } := by
    rw [advance, pending, List.head?_cons, List.tail_cons]
  have opened : reader.ensureOpen = .ok () := by
    rw [ensureOpen, opened]
    rfl
  rw [read, opened, advanced]
  rfl

/-- As many reads as there are rows find one each time, and the last one is the current one. -/
theorem read_times {reader : Reader} {before after : List (List Value)} {values : List Value}
    (opened : reader.isClosed = false) (pending : reader.pending = before ++ values :: after) :
    reader.readTimes (before.length + 1) =
      .ok (true, { reader with current? := some values, pending := after }) := by
  induction before generalizing reader with
  | nil =>
      have read := read_pending opened pending
      rw [List.length_nil, readTimes, read]
      rfl
  | cons first before ih =>
      have read := read_pending opened pending
      let next : Reader := { reader with current? := some first, pending := before ++ values :: after }
      have later : next.readTimes (before.length + 1) = _ := ih opened rfl
      rw [List.length_cons, readTimes, read]
      exact later

theorem get_of_yields {reader : Reader} {ordinal : Int} {target : Target} {stored got : Value}
    (value : reader.value ordinal = .ok stored) (yields : target.Yields stored got) :
    reader.get target ordinal = .ok got := by
  unfold get
  rw [value]
  change (if stored.isNull = true then _ else _) = _
  unfold Target.Yields at yields
  by_cases null : stored.isNull = true
  · rw [if_pos null] at yields ⊢
    obtain ⟨replacement, found, converted⟩ := yields
    rw [found]
    exact converted
  · rw [if_neg null] at yields ⊢
    exact yields

end Result.Reader

/-- A reader on a row of stored values. -/
theorem Reply.reader_of_echo {rows : List (List Bound)} {row : List Bound} {index : Nat}
    (columns : List Column) (affected : Int) (position : rows[index]? = some row) :
    ∃ reader, (Reader.ofTables [⟨columns, rows.map fun row => row.map Bound.stored⟩]
        affected).readTimes (index + 1) = .ok (true, reader) ∧
      ∀ (ordinal : Nat) (bound : Bound), row[ordinal]? = some bound ->
        reader.value ordinal = .ok bound.stored := by
  let stored := rows.map fun row => row.map Bound.stored
  let start := Reader.ofTables [⟨columns, stored⟩] affected
  have inside : index < rows.length := (List.getElem?_eq_some_iff.mp position).1
  have split : start.pending =
      stored.take index ++ row.map Bound.stored :: stored.drop (index + 1) := by
    have here : index < stored.length := by rwa [List.length_map]
    have current : stored[index] = row.map Bound.stored := by
      rw [List.getElem_map, (List.getElem?_eq_some_iff.mp position).2]
    rw [← current, ← List.drop_eq_getElem_cons here, List.take_append_drop]
    rfl
  have size : (stored.take index).length = index := by
    simp only [stored, List.length_take, List.length_map]
    omega
  have reads := Reader.read_times rfl split
  rw [size] at reads
  refine ⟨_, reads, ?_⟩
  intro ordinal bound found
  have cell : (row.map Bound.stored)[ordinal]? = some bound.stored := by
    rw [List.getElem?_map, found, Option.map_some]
  rw [Reader.value]
  change Fault.lift (Position.item (row.map Bound.stored) ordinal) = .ok bound.stored
  rw [Position.item_of_nat cell]
  rfl

/-- Bound values can be sent, and the getters of a reader give them back when the server echoes
them. -/
theorem echo_reads_back :
    (∀ value target got, ReadsAs value target got ->
      ∃ content, Wire.encodeContent (DbType.infer value) value = .ok content) ∧
    ∀ (batch : Batch) (reply : Reply) (result : Wire.StatementResult) (rows : List (List Bound)),
      Echoes reply result rows ->
      ∃ tables, reply.tables batch = .ok tables ∧
        ∀ (index ordinal : Nat) (row : List Bound) (bound : Bound),
          rows[index]? = some row -> row[ordinal]? = some bound ->
          ∃ reader, (Reader.ofTables tables.tables tables.affected).readTimes (index + 1) =
              .ok (true, reader) ∧
            (bound.value = .null -> reader.isNull ordinal = .ok true) ∧
            ∀ target got, ReadsAs bound.value target got ->
              reader.get target ordinal = .ok got := by
  constructor
  · intro value target got reads
    obtain ⟨content, encoded, _⟩ := Wire.Content.carries_of_reads reads
    exact ⟨content, encoded⟩
  · intro batch reply result rows echoes
    refine ⟨_, Reply.echo_tables batch echoes, ?_⟩
    intro index ordinal row bound position found
    obtain ⟨reader, reads, values⟩ := Reply.reader_of_echo (Reply.columnsOf result)
      (Reply.affectedCount reply.executed) position
    have value := values ordinal bound found
    refine ⟨reader, reads, ?_, ?_⟩
    · intro null
      rw [Reader.isNull, value, Bound.stored_null null]
      rfl
    · intro target got readsAs
      exact Reader.get_of_yields value (Bound.stored_yields readsAs)

/-- Empty text comes back as such, beside a null that comes back as null. -/
theorem echo_reads_back_empty_text :
    ∃ tables, (echoReply 2 [[.text [], .null]]).tables ⟨[], [], .null, .null⟩ = .ok tables ∧
      (∃ reader, (Reader.ofTables tables.tables tables.affected).readTimes 1 = .ok (true, reader) ∧
        reader.get .text 0 = .ok (.text [])) ∧
      ∃ reader, (Reader.ofTables tables.tables tables.affected).readTimes 1 = .ok (true, reader) ∧
        reader.isNull 1 = .ok true := by
  obtain ⟨tables, made, reads⟩ := echo_reads_back.2 ⟨[], [], .null, .null⟩
    (echoReply 2 [[.text [], .null]]) _ [[.text [], .null]]
    (echo_reply_echoes (by decide) (by simp))
  obtain ⟨reader, found, _, get⟩ := reads 0 0 _ _ rfl rfl
  obtain ⟨same, again, isNull, _⟩ := reads 0 1 _ _ rfl rfl
  exact ⟨tables, made, ⟨reader, found, get .text (.text []) (.text [])⟩, same, again, isNull rfl⟩

end SqlPipeline
