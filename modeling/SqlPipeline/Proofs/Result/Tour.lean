import SqlPipeline.Proofs.Outcome
import SqlPipeline.Proofs.Value.Refusal
import SqlPipeline.Result.Reader

/-!
Tours of a reader through its tables. However a caller mixes the ways of advancing, the rows of a
table are shown one after the other from the first on, and each table is stayed at once.
-/

namespace SqlPipeline
namespace Result
namespace Reader

/-- What a caller can do: read, take a single step of a fresh iterator or all its steps, as a cursor
fetches one row or all, go to the next table, get a cell, and close. -/
inductive Move where
  | read
  | nextRow
  | rows
  | nextResult
  | value (ordinal : Int)
  | get (target : Cast.Target) (ordinal : Int)
  | close

def Move.advances : Move -> Bool
  | read => true
  | nextRow => true
  | rows => true
  | nextResult => true
  | value _ => false
  | get _ _ => false
  | close => false

/-- What a caller is shown: a row that becomes current, the end of a table, or a further table. -/
inductive Event where
  | row (row : Row)
  | ended
  | moved

namespace Event

def isMoved : Event -> Bool
  | moved => true
  | _ => false

end Event

/-- What a move shows, and the reader after it. -/
def make (reader : Reader) : Move -> Outcome (List Event × Reader)
  | .read => do
      let (found, after) ← reader.read
      if found then .ok ([.row ⟨← after.requireTable, ← after.values⟩], after)
      else .ok ([.ended], after)
  | .nextRow => do
      let (row?, after) ← reader.nextRow
      match row? with
      | some row => .ok ([.row row], after)
      | none => .ok ([.ended], after)
  | .rows => do
      let (rows, after) ← reader.rows
      .ok (rows.map .row ++ [.ended], after)
  | .nextResult => do
      let (_, after) ← reader.nextResult
      .ok ([.moved], after)
  | .value ordinal => do
      let _ ← reader.value ordinal
      .ok ([], reader)
  | .get target ordinal => do
      let _ ← reader.get target ordinal
      .ok ([], reader)
  | .close => .ok ([], reader.close)

/-- What a caller is shown who goes on after a refusal, and the reader after all moves. -/
def tour : Reader -> List Move -> List Event × Reader
  | reader, [] => ([], reader)
  | reader, move :: later =>
      match reader.make move with
      | .ok (events, after) => (events ++ (tour after later).1, (tour after later).2)
      | .error _ => tour reader later

/-- The events at the table that so many moves lead to. -/
def stay : Nat -> List Event -> List Event
  | _, [] => []
  | 0, .moved :: _ => []
  | 0, event :: later => event :: stay 0 later
  | k + 1, .moved :: later => stay k later
  | k + 1, _ :: later => stay (k + 1) later

/-- Rows are shown from the first on, and the end only after the last of them. -/
def IsStay (rows : List Row) (events : List Event) : Prop :=
  ∃ count ends, events = (rows.take count).map .row ++ List.replicate ends .ended ∧
    (0 < ends -> rows.length ≤ count)

def rowsAt (tables : List Table) (k : Nat) : List Row :=
  match tables[k]? with
  | some table => table.rows.map fun values => ⟨table, values⟩
  | none => []

/-- The outcome is a refusal for the state of the reader. -/
def IsInvalidState (outcome : Outcome α) : Prop :=
  ∃ error : LibraryError, outcome = .error (.library error) ∧ error.kind = .invalidState

/-! Steps. Every way of advancing is made of three: to the next row, past the last row, and to the
next table. -/

/-- A reader past the last table has no rows to read. -/
def IsSound (reader : Reader) : Prop :=
  reader.tables = [] -> reader.pending = []

/-- The reader at the next table. -/
def turned (reader : Reader) : Reader :=
  { reader with
    tables := reader.tables.tail
    current? := none
    pending := rowsOf reader.tables.tail }

inductive Path : Reader -> List Event -> Reader -> Prop where
  | stop (reader : Reader) : Path reader [] reader
  | row {reader last : Reader} {row : Row} {rest : List Row} {later : List Event}
      (next : reader.remainingRows = row :: rest) (path : Path reader.advance later last) :
      Path reader (.row row :: later) last
  | ended {reader last : Reader} {later : List Event}
      (none : reader.remainingRows = []) (path : Path reader.advance later last) :
      Path reader (.ended :: later) last
  | moved {reader last : Reader} {later : List Event} (path : Path reader.turned later last) :
      Path reader (.moved :: later) last

theorem of_tables_sound (tables : List Table) (affected : Int) : (ofTables tables affected).IsSound := by
  rintro (rfl : tables = [])
  rfl

theorem IsSound.advance {reader : Reader} (sound : reader.IsSound) : reader.advance.IsSound := by
  intro past
  change reader.pending.tail = []
  rw [sound past]
  rfl

theorem turned_sound (reader : Reader) : reader.turned.IsSound := by
  intro (past : reader.tables.tail = [])
  change rowsOf reader.tables.tail = []
  rw [past]
  rfl

/-- The next row is the head of what is to be read of the current table. -/
theorem next_row {reader : Reader} {row : Row} {rest : List Row}
    (next : reader.remainingRows = row :: rest) :
    reader.table? = some row.table ∧ reader.pending.head? = some row.values ∧
      reader.advance.remainingRows = rest := by
  unfold remainingRows at next
  cases present : reader.table? with
  | none => simp [present] at next
  | some table =>
      rw [present] at next
      cases pending : reader.pending with
      | nil => simp [pending] at next
      | cons values later =>
          simp only [pending, List.map_cons, List.cons.injEq] at next
          obtain ⟨rfl, rfl⟩ := next
          refine ⟨rfl, rfl, ?_⟩
          have same : reader.advance.table? = some table := present
          rw [remainingRows, same]
          simp only [advance, pending, List.tail_cons]

theorem no_row {reader : Reader} (sound : reader.IsSound) (none : reader.remainingRows = []) :
    reader.pending = [] := by
  unfold remainingRows table? at none
  cases tables : reader.tables with
  | nil => exact sound tables
  | cons table later =>
      rw [tables] at none
      exact List.map_eq_nil_iff.mp none

theorem no_later_row {reader : Reader} (none : reader.remainingRows = []) :
    reader.advance.remainingRows = [] := by
  have same : reader.advance.table? = reader.table? := rfl
  unfold remainingRows at none ⊢
  rw [same]
  cases present : reader.table? with
  | none => rfl
  | some table =>
      rw [present] at none
      have empty : reader.pending = [] := List.map_eq_nil_iff.mp none
      simp only [advance, empty, List.tail_nil, List.map_nil]

/-- All that is to be read of a table, and then its end. -/
theorem path_through {reader last : Reader} {rows : List Row} {later : List Event}
    (left : reader.remainingRows = rows) (sound : reader.IsSound)
    (path : Path reader.pastRows later last) :
    Path reader (rows.map .row ++ .ended :: later) last := by
  induction rows generalizing reader with
  | nil =>
      have same : reader.advance = reader.pastRows := by
        simp only [advance, pastRows, no_row sound left, List.head?_nil, List.tail_nil]
      exact .ended left (same ▸ path)
  | cons row rest ih =>
      obtain ⟨-, -, tail⟩ := next_row left
      exact .row left (ih tail sound.advance path)

section

variable {reader : Reader}

theorem ensure_open (isOpen : reader.isClosed = false) : reader.ensureOpen = .ok () := by
  rw [ensureOpen, isOpen]
  rfl

theorem read_open (isOpen : reader.isClosed = false) :
    reader.read = .ok (reader.pending.head?.isSome, reader.advance) := by
  rw [read, ensure_open isOpen]
  rfl

theorem values_of_row {table : Table} {values : List Value} (isOpen : reader.isClosed = false)
    (present : reader.table? = some table) (current : reader.current? = some values) :
    reader.requireTable = .ok table ∧ reader.values = .ok values := by
  have required : reader.requireTable = .ok table := by
    rw [requireTable, present]
  refine ⟨required, ?_⟩
  rw [Reader.values, ensure_open isOpen, Outcome.ok_bind, required, Outcome.ok_bind, current]

/-- A reading and a single step of an iterator show the same. -/
theorem make_next {move : Move} {row : Row} {rest : List Row} (isOpen : reader.isClosed = false)
    (next : reader.remainingRows = row :: rest) (single : move = .read ∨ move = .nextRow) :
    reader.make move = .ok ([.row row], reader.advance) := by
  obtain ⟨present, head, -⟩ := next_row next
  have stillOpen : reader.advance.isClosed = false := isOpen
  obtain ⟨required, values⟩ := values_of_row stillOpen present head
  rcases single with rfl | rfl
  · simp only [make, read_open isOpen, head, Outcome.ok_bind, Option.isSome_some, if_true, required,
      values]
  · simp only [make, nextRow, read_open isOpen, head, Outcome.ok_bind, Option.isSome_some, if_true,
      required, values]

theorem make_end {move : Move} (isOpen : reader.isClosed = false) (sound : reader.IsSound)
    (none : reader.remainingRows = []) (single : move = .read ∨ move = .nextRow) :
    reader.make move = .ok ([.ended], reader.advance) := by
  have empty : reader.pending = [] := no_row sound none
  rcases single with rfl | rfl
  · simp only [make, read_open isOpen, empty, List.head?_nil, Option.isSome_none, Outcome.ok_bind,
      Bool.false_eq_true, if_false]
  · simp only [make, nextRow, read_open isOpen, empty, List.head?_nil, Option.isSome_none,
      Outcome.ok_bind, Bool.false_eq_true, if_false]

theorem make_single {move : Move} (isOpen : reader.isClosed = false) (sound : reader.IsSound)
    (single : move = .read ∨ move = .nextRow) :
    ∃ events after, reader.make move = .ok (events, after) ∧ Path reader events after := by
  cases left : reader.remainingRows with
  | nil => exact ⟨_, _, make_end isOpen sound left single, .ended left (.stop _)⟩
  | cons row rest => exact ⟨_, _, make_next isOpen left single, .row left (.stop _)⟩

/-- An open reader advances, whichever way it is asked to. -/
theorem make_advance {move : Move} (isOpen : reader.isClosed = false) (sound : reader.IsSound)
    (advances : move.advances = true) :
    ∃ events after, reader.make move = .ok (events, after) ∧ Path reader events after := by
  cases move with
  | read => exact make_single isOpen sound (.inl rfl)
  | nextRow => exact make_single isOpen sound (.inr rfl)
  | rows =>
      have made : reader.make .rows =
          .ok (reader.remainingRows.map .row ++ [.ended], reader.pastRows) := by
        simp only [make, rows, ensure_open isOpen, Outcome.ok_bind]
      exact ⟨_, _, made, path_through rfl sound (.stop _)⟩
  | nextResult =>
      have made : reader.make .nextResult = .ok ([.moved], reader.turned) := by
        simp only [make, nextResult, ensure_open isOpen, Outcome.ok_bind]
        rfl
      exact ⟨_, _, made, .moved (.stop _)⟩
  | value ordinal => cases advances
  | get target ordinal => cases advances
  | close => cases advances

theorem ensure_closed (closed : reader.isClosed = true) :
    reader.ensureOpen = .error (.cause .readerClosed) := by
  rw [ensureOpen, if_pos closed]

/-- A closed reader refuses to advance. -/
theorem make_closed {move : Move} (closed : reader.isClosed = true)
    (advances : move.advances = true) : reader.make move = .error (.cause .readerClosed) := by
  cases move with
  | read =>
      simp only [make, read, ensure_closed closed]
      rfl
  | nextRow =>
      simp only [make, nextRow, read, ensure_closed closed]
      rfl
  | rows =>
      simp only [make, rows, ensure_closed closed]
      rfl
  | nextResult =>
      simp only [make, nextResult, ensure_closed closed]
      rfl
  | value ordinal => cases advances
  | get target ordinal => cases advances
  | close => cases advances

end

/-- Getting a cell shows nothing and leaves the reader where it is. -/
theorem tour_getter (reader : Reader) {move : Move} (stays : move.advances = false)
    (goesOn : move ≠ .close) (later : List Move) : reader.tour (move :: later) = reader.tour later := by
  cases move with
  | read => cases stays
  | nextRow => cases stays
  | rows => cases stays
  | nextResult => cases stays
  | value ordinal =>
      simp only [tour, make]
      cases reader.value ordinal with
      | ok cell => rfl
      | error failure => rfl
  | get target ordinal =>
      simp only [tour, make]
      cases reader.get target ordinal with
      | ok cell => rfl
      | error failure => rfl
  | close => exact absurd rfl goesOn

theorem tour_closed {reader : Reader} (closed : reader.isClosed = true) (moves : List Move) :
    reader.tour moves = ([], reader) := by
  induction moves with
  | nil => rfl
  | cons move later ih =>
      by_cases advances : move.advances = true
      · rw [tour, make_closed closed advances]
        exact ih
      · by_cases again : move = .close
        · have same : reader.close = reader := by
            cases reader
            cases closed
            rfl
          rw [again, tour]
          simp only [make, same, ih, List.nil_append]
        · rw [tour_getter reader (Bool.eq_false_iff.mpr advances) again later]
          exact ih

theorem tour_append (reader : Reader) (moves later : List Move) :
    (reader.tour (moves ++ later)).1 =
      (reader.tour moves).1 ++ ((reader.tour moves).2.tour later).1 := by
  induction moves generalizing reader with
  | nil => rfl
  | cons move rest ih =>
      simp only [List.cons_append, tour]
      cases reader.make move with
      | error failure => exact ih reader
      | ok made => simp only [ih made.2, List.append_assoc]

namespace Path

variable {reader last final : Reader} {events later : List Event}

theorem append (first : Path reader events last) (second : Path last later final) :
    Path reader (events ++ later) final := by
  induction first with
  | stop reader => exact second
  | row next _ ih => exact .row next (ih second)
  | ended none _ ih => exact .ended none (ih second)
  | moved _ ih => exact .moved (ih second)

theorem is_closed (path : Path reader events last) : last.isClosed = reader.isClosed := by
  induction path with
  | stop reader => rfl
  | row _ _ ih => exact ih
  | ended _ _ ih => exact ih
  | moved _ ih => exact ih

theorem sound (path : Path reader events last) (start : reader.IsSound) : last.IsSound := by
  induction path with
  | stop reader => exact start
  | row _ _ ih => exact ih start.advance
  | ended _ _ ih => exact ih start.advance
  | moved _ ih => exact ih (turned_sound _)

/-- The tables that are left are those after the ones moved past. -/
theorem tables (path : Path reader events last) :
    last.tables = reader.tables.drop (events.countP Event.isMoved) := by
  induction path with
  | stop reader => rfl
  | row _ _ ih => exact ih
  | ended _ _ ih => exact ih
  | @moved reader last later _ ih =>
      have count : (Event.moved :: later).countP Event.isMoved = later.countP Event.isMoved + 1 :=
        List.countP_cons_of_pos rfl
      have next : reader.turned.tables = reader.tables.tail := rfl
      rw [ih, count, next, List.drop_tail]

theorem split (path : Path reader (events ++ later) last) :
    ∃ between, Path reader events between ∧ Path between later last := by
  induction events generalizing reader with
  | nil => exact ⟨reader, .stop reader, path⟩
  | cons event events ih =>
      cases path with
      | row next path =>
          obtain ⟨between, first, second⟩ := ih path
          exact ⟨between, .row next first, second⟩
      | ended none path =>
          obtain ⟨between, first, second⟩ := ih path
          exact ⟨between, .ended none first, second⟩
      | moved path =>
          obtain ⟨between, first, second⟩ := ih path
          exact ⟨between, .moved first, second⟩

/-- A row that was shown last is the current one. -/
theorem current_row (path : Path reader events last) {row : Row}
    (shown : events.getLast? = some (.row row)) :
    last.table? = some row.table ∧ last.current? = some row.values := by
  obtain ⟨before, rfl⟩ := List.getLast?_eq_some_iff.mp shown
  obtain ⟨between, -, step⟩ := path.split
  cases step with
  | row next stopped =>
      cases stopped
      obtain ⟨present, head, -⟩ := next_row next
      exact ⟨present, head⟩

/-- There is no current row when something else was shown last, or nothing. -/
theorem no_current (path : Path reader events last) (start : reader.IsSound)
    (fresh : reader.current? = none) (unshown : ∀ row, events.getLast? ≠ some (.row row)) :
    last.current? = none := by
  cases found : events.getLast? with
  | none =>
      rw [List.getLast?_eq_none_iff.mp found] at path
      cases path
      exact fresh
  | some event =>
      obtain ⟨before, rfl⟩ := List.getLast?_eq_some_iff.mp found
      obtain ⟨between, first, step⟩ := path.split
      cases step with
      | row _ _ => exact absurd found (unshown _)
      | ended none stopped =>
          cases stopped
          simp only [advance, no_row (first.sound start) none, List.head?_nil]
      | moved stopped =>
          cases stopped
          rfl

end Path

/-! Stays. -/

theorem stay_of_none (rows : List Row) : IsStay rows [] :=
  ⟨0, 0, rfl, fun ended => absurd ended (Nat.lt_irrefl 0)⟩

theorem IsStay.row {rows : List Row} {events : List Event} (stay : IsStay rows events) (row : Row) :
    IsStay (row :: rows) (.row row :: events) := by
  obtain ⟨count, ends, rfl, all⟩ := stay
  exact ⟨count + 1, ends, rfl, fun ended => Nat.succ_le_succ (all ended)⟩

theorem IsStay.ended {events : List Event} (stay : IsStay [] events) :
    IsStay [] (.ended :: events) := by
  obtain ⟨count, ends, rfl, -⟩ := stay
  refine ⟨count, ends + 1, ?_, fun _ => Nat.zero_le count⟩
  simp only [List.take_nil, List.map_nil, List.nil_append, List.replicate_succ]

/-- The rows that a reader still has to show of each table, by the number of moves to it. -/
def ahead (reader : Reader) : Nat -> List Row
  | 0 => reader.remainingRows
  | k + 1 => rowsAt reader.tables (k + 1)

theorem ahead_fresh {reader : Reader} (fresh : reader.pending = rowsOf reader.tables) (k : Nat) :
    reader.ahead k = rowsAt reader.tables k := by
  cases k with
  | succ k => rfl
  | zero =>
      rw [ahead, remainingRows, fresh, table?, rowsAt, List.head?_eq_getElem?]
      cases tables : reader.tables with
      | nil => rfl
      | cons table later => rfl

theorem ahead_turned (reader : Reader) (k : Nat) : reader.turned.ahead k = reader.ahead (k + 1) := by
  rw [ahead_fresh rfl k]
  simp only [turned, ahead, rowsAt, List.getElem?_tail]

/-- On the way from a reader each table is stayed at for what it has to show. -/
theorem Path.stays {reader last : Reader} {events : List Event} (path : Path reader events last)
    (k : Nat) : IsStay (reader.ahead k) (stay k events) := by
  induction path generalizing k with
  | stop reader =>
      rw [stay]
      exact stay_of_none _
  | row next _ ih =>
      cases k with
      | zero =>
          obtain ⟨-, -, rest⟩ := next_row next
          have later := ih 0
          rw [ahead, rest] at later
          rw [ahead, next, stay]
          · exact later.row _
          · intro moved
            cases moved
      | succ k => exact ih (k + 1)
  | ended none _ ih =>
      cases k with
      | zero =>
          have later := ih 0
          rw [ahead, no_later_row none] at later
          rw [ahead, none, stay]
          · exact later.ended
          · intro moved
            cases moved
      | succ k => exact ih (k + 1)
  | moved _ ih =>
      cases k with
      | zero => exact stay_of_none _
      | succ k => exact ahead_turned _ k ▸ ih k

/-! Getters. -/

theorem not_invalid_of_refusal {outcome : Outcome α} (only : Cast.OnlyRefuses outcome) :
    ¬IsInvalidState outcome := by
  rintro ⟨error, raised, kind⟩
  have other : error.kind = .invalidCast := only _ raised
  rw [other] at kind
  cases kind

/-- A step that fails for other reasons adds no refusal for the state. -/
theorem invalid_bind {first : Outcome α} {next : α -> Outcome β}
    (other : ∀ x, first = .ok x -> ¬IsInvalidState (next x)) :
    IsInvalidState (first >>= next) ↔ IsInvalidState first := by
  cases first with
  | ok x =>
      constructor
      · intro invalid
        exact absurd invalid (other x rfl)
      · rintro ⟨error, raised, -⟩
        cases raised
  | error failure =>
      constructor
      · rintro ⟨error, raised, kind⟩
        cases raised
        exact ⟨error, rfl, kind⟩
      · rintro ⟨error, raised, kind⟩
        cases raised
        exact ⟨error, rfl, kind⟩

theorem values_invalid_iff (reader : Reader) :
    IsInvalidState reader.values ↔
      reader.isClosed = true ∨ reader.tables = [] ∨ reader.current? = none := by
  obtain ⟨tables, current?, pending, isClosed, affected⟩ := reader
  cases isClosed with
  | true => exact iff_of_true ⟨_, rfl, rfl⟩ (.inl rfl)
  | false =>
      cases tables with
      | nil => exact iff_of_true ⟨_, rfl, rfl⟩ (.inr (.inl rfl))
      | cons table later =>
          cases current? with
          | none => exact iff_of_true ⟨_, rfl, rfl⟩ (.inr (.inr rfl))
          | some cells =>
              refine iff_of_false ?_ (by simp)
              rintro ⟨error, raised, -⟩
              cases raised

theorem value_invalid_iff (reader : Reader) (ordinal : Int) :
    IsInvalidState (reader.value ordinal) ↔ IsInvalidState reader.values :=
  invalid_bind fun _ _ => not_invalid_of_refusal (Cast.only_refuses_lift _)

/-- A reader with cells has a table, so that nothing but its cell is wrong with a null. -/
theorem refuse_null_only {reader : Reader} {cell : Value} {ordinal : Int}
    (found : reader.value ordinal = .ok cell) (target : Cast.Target) :
    Cast.OnlyRefuses (reader.refuseNull ordinal target : Outcome Value) := by
  obtain ⟨cells, present, -⟩ := Outcome.bind_eq_ok.mp found
  obtain ⟨_, -, afterOpen⟩ := Outcome.bind_eq_ok.mp present
  obtain ⟨table, required, -⟩ := Outcome.bind_eq_ok.mp afterOpen
  rw [refuseNull, column, required, Outcome.ok_bind]
  refine (Cast.only_refuses_lift _).bind fun column => ?_
  intro failure raised
  cases raised
  rfl

theorem get_invalid_iff (reader : Reader) (target : Cast.Target) (ordinal : Int) :
    IsInvalidState (reader.get target ordinal) ↔ IsInvalidState reader.values := by
  refine (invalid_bind fun cell found => not_invalid_of_refusal ?_).trans
    (value_invalid_iff reader ordinal)
  by_cases null : cell.isNull = true
  · rw [if_pos null]
    cases target.ofNull? with
    | some replacement => exact Cast.convert_only target replacement
    | none => exact refuse_null_only found target
  · rw [if_neg null]
    exact Cast.convert_only target cell

/-- A tour of an open reader goes along one path, and closes it at the end or leaves it open. -/
theorem tour_path {reader : Reader} (isOpen : reader.isClosed = false) (sound : reader.IsSound)
    (moves : List Move) :
    ∃ last, Path reader (reader.tour moves).1 last ∧
      (.close ∈ moves -> (reader.tour moves).2 = last.close) ∧
      (.close ∉ moves -> (reader.tour moves).2 = last) := by
  induction moves generalizing reader with
  | nil => exact ⟨reader, .stop reader, fun closes => absurd closes List.not_mem_nil, fun _ => rfl⟩
  | cons move later ih =>
      by_cases advances : move.advances = true
      · obtain ⟨events, after, made, first⟩ := make_advance isOpen sound advances
        have goesOn : Move.close ≠ move := by
          rintro rfl
          cases advances
        obtain ⟨last, path, closes, stays⟩ := ih (first.is_closed.trans isOpen) (first.sound sound)
        simp only [tour, made, List.mem_cons, goesOn, false_or]
        exact ⟨last, first.append path, closes, stays⟩
      · by_cases closing : move = .close
        · have closed : reader.close.isClosed = true := rfl
          have shown : reader.tour (move :: later) = ([], reader.close) := by
            simp only [closing, tour, make, tour_closed closed later, List.nil_append]
          rw [shown]
          exact ⟨reader, .stop reader, fun _ => rfl, fun stays =>
            absurd (closing ▸ List.mem_cons_self) stays⟩
        · rw [tour_getter reader (Bool.eq_false_iff.mpr advances) closing later]
          obtain ⟨last, path, closes, stays⟩ := ih isOpen sound
          have goesOn : Move.close ≠ move := fun same => closing same.symm
          simp only [List.mem_cons, goesOn, false_or]
          exact ⟨last, path, closes, stays⟩

/-- Where a tour leaves a reader that has shown nothing yet: it is closed when the tour closes it, it
has moved on as often as it showed, and its current row is the one that was shown last. -/
theorem tour_leaves {reader : Reader} (isOpen : reader.isClosed = false) (sound : reader.IsSound)
    (fresh : reader.current? = none) (moves : List Move) :
    ((reader.tour moves).2.isClosed = true ↔ .close ∈ moves) ∧
      (reader.tour moves).2.tables =
        reader.tables.drop ((reader.tour moves).1.countP Event.isMoved) ∧
      ((reader.tour moves).2.current? = none ↔
        ∀ row, (reader.tour moves).1.getLast? ≠ some (.row row)) := by
  obtain ⟨last, path, closes, stays⟩ := tour_path isOpen sound moves
  have rowless : last.current? = none ↔
      ∀ row, (reader.tour moves).1.getLast? ≠ some (.row row) := by
    constructor
    · intro none row shown
      rw [(path.current_row shown).2] at none
      cases none
    · exact path.no_current sound fresh
  rw [← rowless, ← path.tables]
  by_cases closing : .close ∈ moves
  · rw [closes closing]
    exact ⟨iff_of_true rfl closing, rfl, Iff.rfl⟩
  · rw [stays closing, path.is_closed, isOpen]
    exact ⟨iff_of_false nofun closing, rfl, Iff.rfl⟩

/-- A tour of the tables shows at each of them its rows from the first on, and then its end for as
long as it is stayed at. It is at the table that it was moved to, with the row shown last as the
current one, and a getter refuses exactly when there is none. Nothing is shown after a close, and
until then no advance is refused. -/
theorem tour_delivers_rows (tables : List Table) (affected : Int) (moves : List Move) :
    let events := ((ofTables tables affected).tour moves).1
    let reader := ((ofTables tables affected).tour moves).2
    let moved := events.countP Event.isMoved
    (∀ k, IsStay (rowsAt tables k) (stay k events)) ∧
      reader.table? = tables[moved]? ∧
      (∀ row, .close ∉ moves -> events.getLast? = some (.row row) ->
        reader.values = .ok row.values) ∧
      (∀ ordinal target,
        (IsInvalidState (reader.value ordinal) ↔
          .close ∈ moves ∨ tables.length ≤ moved ∨ ∀ row, events.getLast? ≠ some (.row row)) ∧
        (IsInvalidState (reader.get target ordinal) ↔
          .close ∈ moves ∨ tables.length ≤ moved ∨ ∀ row, events.getLast? ≠ some (.row row))) ∧
      (.close ∉ moves -> ∀ move, move.advances = true ->
        ∃ shown after, reader.make move = .ok (shown, after)) ∧
      (.close ∈ moves -> ∀ later,
        ((ofTables tables affected).tour (moves ++ later)).1 = events) := by
  have sound := of_tables_sound tables affected
  obtain ⟨last, path, -, stays⟩ := tour_path rfl sound moves
  obtain ⟨closed, left, rowless⟩ := tour_leaves rfl sound rfl moves
  have stillOpen : last.isClosed = false := path.is_closed
  intro events reader moved
  have past : reader.tables = [] ↔ tables.length ≤ moved := by
    rw [left]
    exact List.drop_eq_nil_iff
  have invalid : IsInvalidState reader.values ↔ .close ∈ moves ∨ tables.length ≤ moved ∨
      ∀ row, events.getLast? ≠ some (.row row) := by
    rw [values_invalid_iff, closed, past, rowless]
  refine ⟨fun k => ?_, ?_, fun row open_ shown => ?_, fun ordinal target => ⟨?_, ?_⟩,
    fun open_ move advances => ?_, fun closing later => ?_⟩
  · have fresh : (ofTables tables affected).ahead k = rowsAt tables k := ahead_fresh rfl k
    exact fresh ▸ path.stays k
  · rw [table?, left, List.head?_drop]
    rfl
  · obtain ⟨present, current⟩ := path.current_row shown
    exact (stays open_ ▸ values_of_row stillOpen present current).2
  · exact (value_invalid_iff reader ordinal).trans invalid
  · exact (get_invalid_iff reader target ordinal).trans invalid
  · have here : reader = last := stays open_
    obtain ⟨shown, after, made, -⟩ := make_advance stillOpen (path.sound sound) advances
    exact ⟨shown, after, here ▸ made⟩
  · rw [tour_append, tour_closed (closed.mpr closing) later, List.append_nil]

end Reader
end Result
end SqlPipeline
