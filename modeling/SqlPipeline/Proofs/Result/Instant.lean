import SqlPipeline.Proofs.Result.Getter
import SqlPipeline.Proofs.Time.Reading
import SqlPipeline.Proofs.Time.Sorting
import SqlPipeline.Wire.Argument

/-!
A text of a date and a time is taken for the same instant wherever it is read: as an argument of
either type, from a cell of text, and from a cell that its column has turned into a stamp before.
-/

namespace SqlPipeline

open Result (Reader)
open Time (Moment Stamp)

namespace Time

theorem Stamp.read_of_moment {s : Text} {moment : Moment} (read : Moment.read s = .ok moment)
    (stamp : Stamp) : Stamp.read s = .ok stamp ↔ (stamp.micros : Int) = moment.instant := by
  rw [Stamp.read_eq, read]
  exact Moment.to_utc_iff

/-- What reads as a stamp reads as a moment too, and at the same instant. -/
theorem Moment.read_of_stamp {s : Text} {stamp : Stamp} (read : Stamp.read s = .ok stamp) :
    ∃ moment, Moment.read s = .ok moment ∧ (stamp.micros : Int) = moment.instant := by
  cases found : Moment.read s with
  | error failure =>
      rw [Stamp.read_eq, found] at read
      cases read
  | ok moment => exact ⟨moment, rfl, (Stamp.read_of_moment found stamp).mp read⟩

theorem Moment.read_of_malformed {s : Text} (refused : Stamp.read s = .error .malformed) :
    Moment.read s = .error .malformed := by
  rw [Stamp.read_eq] at refused
  cases read : Moment.read s with
  | error failure =>
      rw [read] at refused
      cases refused
      rfl
  | ok moment =>
      rw [read] at refused
      simp only [Except.bind, Moment.toUtc] at refused
      cases utc : moment.utcStamp? <;> simp [utc] at refused

end Time

theorem Cast.refuse_fails {α : Type} (value : Value) (target : Text) :
    ∃ failure, (refuse value target : Outcome α) = .error failure := by
  unfold refuse
  cases inspected value with
  | ok shown => exact ⟨_, rfl⟩
  | error failure => exact ⟨failure, rfl⟩

namespace Wire

theorem encode_stamp_text_iff {s : Text} {content : Content} :
    encodeStamp (.text s) = .ok content ↔
      ∃ stamp, Stamp.read s = .ok stamp ∧ content = .text stamp.text := by
  cases read : Stamp.read s with
  | error failure =>
      have refused : ∀ content, encodeStamp (.text s) ≠ .ok content := by
        cases failure <;> simp [encodeStamp, read]
      simp [refused]
  | ok stamp => simp [encodeStamp, read, eq_comm]

/-- As a moment with an offset, a text is stored as the stamp that it reads as without one. -/
theorem encode_moment_text_iff {s : Text} {content : Content} :
    encodeMoment (.text s) = .ok content ↔
      ∃ stamp, Stamp.read s = .ok stamp ∧ content = .text stamp.text := by
  rw [Stamp.read_eq]
  cases read : Moment.read s with
  | error failure =>
      have refused : ∀ content, encodeMoment (.text s) ≠ .ok content := by
        cases failure <;> simp [encodeMoment, read]
      simp [refused, Except.bind]
  | ok moment =>
      have settled : encodeMoment (.text s) = stored moment.text? := by
        simp only [encodeMoment, read, Moment.offset_text]
      rw [settled, Moment.text?]
      simp only [Except.bind, Moment.toUtc]
      cases moment.utcStamp? with
      | none => simp [stored]
      | some stamp => simp [stored, eq_comm]

end Wire

namespace Reply

/-- A column of stamps holds the stamp that a cell's text reads as, or null where it reads as none. -/
theorem stamp_cell_cases {cell found : Value} {s : Text}
    (raw : Wire.decodeCell .anything cell = .ok (.text s)) (held : readCell .stamp cell = .ok found) :
    (∃ stamp, Stamp.read s = .ok stamp ∧ found = .moment (.naive stamp)) ∨
      Stamp.read s = .error .malformed ∧ found = .null := by
  rw [readCell, raw, Outcome.ok_bind] at held
  change Wire.expectStamp (.text s) = _ at held
  unfold Wire.expectStamp at held
  cases read : Stamp.read s with
  | ok stamp =>
      simp only [read] at held
      cases held
      exact .inl ⟨stamp, rfl, rfl⟩
  | error failure =>
      simp only [read] at held
      cases failure with
      | malformed =>
          cases held
          exact .inr ⟨rfl, rfl⟩
      | outOfRange => cases held

end Reply

namespace Result.Reader

variable {reader : Reader} {ordinal : Int}

theorem moment_of_text {s : Text} (shown : reader.value ordinal = .ok (.text s)) :
    reader.get .moment ordinal = (Cast.ofRead (.text s) (Moment.read s)).map .moment :=
  get_present shown rfl

theorem moment_of_stamp {stamp : Stamp} (shown : reader.value ordinal = .ok (.moment (.naive stamp))) :
    reader.get .moment ordinal = .ok (.moment (.utc stamp)) :=
  get_present shown rfl

theorem moment_of_null (shown : reader.value ordinal = .ok .null) :
    ∃ failure, reader.get .moment ordinal = .error failure := by
  have refused : reader.get .moment ordinal = reader.refuseNull ordinal .moment := by
    unfold get
    rw [shown, Outcome.ok_bind]
    rfl
  rw [refused, refuseNull]
  cases reader.column ordinal with
  | ok column => exact ⟨_, rfl⟩
  | error failure => exact ⟨failure, rfl⟩

end Result.Reader

/-- Two outcomes that are moments at one instant, or are both failures. -/
def SameInstant (left right : Outcome Value) : Prop :=
  (∃ first second : Moment, left = .ok (.moment first) ∧ right = .ok (.moment second) ∧
      first.instant = second.instant) ∨
    (∃ failure, left = .error failure) ∧ ∃ failure, right = .error failure

/-- A text that reads as a moment reads as a stamp when there is one at the instant of the moment,
and then as that one, and a text that reads as no moment reads as no stamp. Hence the types with an
offset and without one store the same of every text, and the getter of moments is at the same
instant on a cell of text and on the stamp that a column makes of the same cell. -/
theorem text_read_at_one_instant (s : Text) :
    (∀ moment, Moment.read s = .ok moment -> ∀ stamp : Stamp,
        Stamp.read s = .ok stamp ↔ (stamp.micros : Int) = moment.instant) ∧
      (∀ stamp, Stamp.read s = .ok stamp -> ∃ moment, Moment.read s = .ok moment) ∧
      (∀ content, Wire.encodeContent .datetime (.text s) = .ok content ↔
        Wire.encodeContent .datetimeOffset (.text s) = .ok content) ∧
      ∀ (cell found : Value) (plain dated : Reader) (i j : Int),
        Wire.decodeCell .anything cell = .ok (.text s) -> Reply.readCell .stamp cell = .ok found ->
        plain.value i = .ok (.text s) -> dated.value j = .ok found ->
        SameInstant (plain.get .moment i) (dated.get .moment j) := by
  refine ⟨fun moment read stamp => Stamp.read_of_moment read stamp, ?_, ?_, ?_⟩
  · intro stamp read
    obtain ⟨moment, found, _⟩ := Moment.read_of_stamp read
    exact ⟨moment, found⟩
  · intro content
    exact Wire.encode_stamp_text_iff.trans Wire.encode_moment_text_iff.symm
  · intro cell found plain dated i j raw held plainShown datedShown
    rw [SameInstant, plain.moment_of_text plainShown]
    rcases Reply.stamp_cell_cases raw held with ⟨stamp, read, rfl⟩ | ⟨read, rfl⟩
    · obtain ⟨moment, found, same⟩ := Moment.read_of_stamp read
      have naive : (Moment.utc stamp).instant = stamp.micros := Int.sub_zero _
      rw [found, dated.moment_of_stamp datedShown]
      exact .inl ⟨moment, .utc stamp, rfl, rfl, by rw [naive, same]⟩
    · obtain ⟨failure, refused⟩ :
          ∃ failure, (Cast.refuse (.text s) "datetime" : Outcome Moment) = .error failure :=
        Cast.refuse_fails _ _
      rw [Moment.read_of_malformed read, Cast.ofRead, refused]
      exact .inr ⟨⟨failure, rfl⟩, dated.moment_of_null datedShown⟩

/-- A reader on a row of one value. -/
def loneReader (type : Result.CellType) (value : Value) : Reader :=
  ⟨[⟨[⟨"at", type, none⟩], [[value]]⟩], some [value], [], false, -1⟩

/-- Noon, two hours ahead of universal time. -/
def noonEast : Moment := ⟨⟨Time.november30, .ofMicros 43200000000⟩, some 7200000000⟩

def tenUtc : Stamp := ⟨Time.november30, .ofMicros 36000000000⟩

/-- With its offset noon is a moment, and in a column of stamps it is ten in universal time. -/
theorem text_read_at_one_instant_east :
    let s : Text := "2023-11-30T12:00:00+02:00"
    let cell : Value := .dict [("type", .text "text"), ("value", .text s)]
    Moment.read s = .ok noonEast ∧ Stamp.read s = .ok tenUtc ∧
      Reply.readCell .stamp cell = .ok (.moment (.naive tenUtc)) ∧
      SameInstant ((loneReader .text (.text s)).get .moment 0)
        ((loneReader .stamp (.moment (.naive tenUtc))).get .moment 0) := by
  intro s cell
  have agree := text_read_at_one_instant s
  have read : Moment.read s = .ok noonEast := by decide
  have naive : Stamp.read s = .ok tenUtc := (agree.1 _ read _).mpr (by decide)
  have raw : Wire.decodeCell .anything cell = .ok (.text s) := by rfl
  have held : Reply.readCell .stamp cell = .ok (.moment (.naive tenUtc)) := by
    rw [Reply.readCell, raw]
    change Wire.expectStamp (.text s) = _
    rw [Wire.expectStamp, naive]
  exact ⟨read, naive, held, agree.2.2.2 cell _ _ _ 0 0 raw held rfl rfl⟩

end SqlPipeline
