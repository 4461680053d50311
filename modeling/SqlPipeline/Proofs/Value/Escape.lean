import SqlPipeline.Proofs.Time.JulianDay
import SqlPipeline.Proofs.Value.Width
import SqlPipeline.Proofs.Wire.Contents
import SqlPipeline.Proofs.Wire.Encoding

/-!
How the casts of cells fail. A cell that does not convert is refused. What escapes that refusal is too
great a number for a real number or for the calendar, a number that is none where a day is wanted, and
text of a stamp or a span that escapes on being sent too.
-/

namespace SqlPipeline
namespace Cast

/-- A cell that is neither read nor refused, and the fault that comes of it. -/
inductive Escapes : Target -> Value -> Fault -> Prop where
  | real {n : Int} (great : Binary64.overflow ≤ n.natAbs) : Escapes .real (.int n) .outOfRange
  | stampSeconds {seconds : Int} (outside : ¬Time.Epoch.IsSecond seconds) :
      Escapes .stamp (.int seconds) .outOfRange
  | momentSeconds {seconds : Int} (outside : ¬Time.Epoch.IsSecond seconds) :
      Escapes .moment (.int seconds) .outOfRange
  | notADay : Escapes .stamp (.real .nan) .badContent
  | endless (negative : Bool) : Escapes .stamp (.real (.infinity negative)) .outOfRange
  | day {negative : Bool} {rank : Fin (2047 * 2 ^ 52)}
      (outside : ¬Time.Epoch.IsDay (ratio negative (Binary64.units rank) Binary64.unitsPerOne)) :
      Escapes .stamp (.real (.finite negative rank)) .outOfRange
  | stampText {s : Text} {fault : Fault} (sent : Wire.Escapes .stamp (.text s) fault) :
      Escapes .stamp (.text s) fault
  | spanText {s : Text} {fault : Fault} (sent : Wire.Escapes .span (.text s) fault) :
      Escapes .span (.text s) fault

/-- The outcome is a fault exactly where the cell escapes the target. -/
def Settles {α : Type} (target : Target) (value : Value) (outcome : Outcome α) : Prop :=
  ∀ fault, outcome = .error (.fault fault) ↔ Escapes target value fault

section

variable {α : Type} {target : Target} {value : Value}

theorem settles_ok (x : α) (safe : ∀ fault, ¬Escapes target value fault) :
    Settles target value (.ok x : Outcome α) :=
  fun fault => iff_of_false nofun (safe fault)

theorem settles_refused {outcome : Outcome α} (refused : IsRefusal outcome)
    (safe : ∀ fault, ¬Escapes target value fault) : Settles target value outcome :=
  fun fault => iff_of_false (refused.not_fault fault) (safe fault)

theorem settles_out_of_range (escapes_iff : ∀ fault, Escapes target value fault ↔ fault = .outOfRange) :
    Settles target value (.error (.fault .outOfRange) : Outcome α) := by
  intro fault
  rw [escapes_iff]
  constructor
  · intro raised
    cases raised
    rfl
  · rintro rfl
    rfl

theorem Settles.map {β : Type} {outcome : Outcome α} (settled : Settles target value outcome)
    (f : α -> β) : Settles target value (outcome.map f) :=
  fun fault => Outcome.map_eq_error.trans (settled fault)

end

variable {value : Value}

/-! Numbers. -/

theorem real_escapes_iff {fault : Fault} :
    Escapes .real value fault ↔ fault = .outOfRange ∧ value.realNumber = .error .outOfRange := by
  rw [Wire.real_out_of_range_iff]
  constructor
  · intro escapes
    cases escapes with
    | real great => exact ⟨rfl, _, rfl, Wire.too_great_iff.mpr great⟩
  · rintro ⟨rfl, n, rfl, great⟩
    exact .real (Wire.too_great_iff.mp great)

theorem real_settles (cell : value.IsCell) : Settles .real value (real value) := by
  rw [real]
  by_cases bytes : isBytes value = true
  · rw [if_pos bytes]
    apply settles_refused (refuse_refusal cell.short _)
    intro fault escapes
    cases escapes
    cases bytes
  · rw [if_neg bytes]
    cases read : value.realNumber with
    | ok x => exact settles_ok x (by simp [real_escapes_iff, read])
    | error reason =>
        cases reason with
        | outOfRange => exact settles_out_of_range (by simp [real_escapes_iff, read])
        | notNumeric =>
            exact settles_refused (refuse_refusal cell.short _) (by simp [real_escapes_iff, read])
        | malformed =>
            exact settles_refused (refuse_refusal cell.short _) (by simp [real_escapes_iff, read])

theorem shown_of_cell (cell : value.IsCell) : ∃ s, Fault.lift (orTooLong value.display?) = .ok s := by
  cases shown : value.display? with
  | none => exact absurd (Value.display_none_iff.mp shown) cell.short
  | some s => exact ⟨s, rfl⟩

theorem decimal_settles (cell : value.IsCell) : Settles .decimal value (decimal value) := by
  rw [decimal]
  by_cases source : isDecimalSource value = true
  · obtain ⟨s, shown⟩ := shown_of_cell cell
    rw [if_pos source, shown, Outcome.ok_bind]
    cases Decimal.ofText? s with
    | some d => exact settles_ok d nofun
    | none => exact settles_refused (refuse_refusal cell.short _) nofun
  · rw [if_neg source]
    exact settles_refused (refuse_refusal cell.short _) nofun

/-! Texts. -/

theorem text_read (cell : value.IsCell) : ∃ s, text value = .ok s := by
  have shown := shown_of_cell cell
  cases cell with
  | null => exact ⟨[], rfl⟩
  | bytes bytes => exact ⟨_, rfl⟩
  | stamp stamp => exact ⟨_, rfl⟩
  | _ => exact shown

theorem char_cases (cell : value.IsCell) : (∃ c, char value = .ok c) ∨ IsRefusal (char value) := by
  obtain ⟨s, read⟩ := text_read cell
  rw [char, read, Outcome.ok_bind]
  cases s with
  | nil => exact .inr (refuse_refusal (Value.IsCell.text []).short _)
  | cons c rest => exact .inl ⟨c, rfl⟩

theorem char_settles (cell : value.IsCell) : Settles .char value (char value) := by
  rcases char_cases cell with ⟨c, read⟩ | refused
  · rw [read]
    exact settles_ok c nofun
  · exact settles_refused refused nofun

/-- What is wrong with an identifier is wrong with its content. -/
theorem uuid_of_text_content {s : Text} {fault : Fault}
    (failed : Value.uuidOfText s = .error fault) : fault.isContent = true := by
  unfold Value.uuidOfText at failed
  split_ifs at failed
  split at failed
  · cases failed
  · cases failed
    rfl

theorem uuid_content {fault : Fault} (failed : value.toUuid = .error fault) :
    fault.isContent = true := by
  have of_bytes {bytes : Bytes} (failed : Value.uuidOfBytes bytes = .error fault) :
      fault.isContent = true := by
    unfold Value.uuidOfBytes at failed
    split at failed
    · cases failed
    · split at failed
      · exact uuid_of_text_content failed
      · cases failed
        rfl
  cases value with
  | uuid u => cases failed
  | text s => exact uuid_of_text_content failed
  | binary holder bytes =>
      cases holder with
      | window =>
          cases failed
          rfl
      | _ => exact of_bytes failed
  | _ =>
      cases failed
      rfl

theorem uuid_settles (cell : value.IsCell) : Settles .uuid value (uuid value) := by
  rw [uuid]
  cases read : value.toUuid with
  | ok u => exact settles_ok u nofun
  | error fault =>
      simp only [uuid_content read, if_true]
      refine settles_refused ?_ nofun
      cases shown : value.inspect? with
      | none => exact absurd ((Value.inspect_none_iff value).mp shown) cell.short
      | some s => exact ⟨_, by rw [inspected, shown]; rfl, rfl⟩

/-! Stamps and spans. -/

theorem stamp_text_escapes_iff {s : Text} {fault : Fault} :
    Escapes .stamp (.text s) fault ↔
      fault = .outOfRange ∧ Time.Stamp.read s = .error .outOfRange := by
  rw [← Wire.stamp_text_escapes_iff]
  constructor
  · intro escapes
    cases escapes with
    | stampText sent => exact sent
  · exact .stampText

theorem of_seconds_settles {target : Target} {seconds : Int}
    (escapes_iff : ∀ fault, Escapes target (.int seconds) fault ↔
      fault = .outOfRange ∧ ¬Time.Epoch.IsSecond seconds) :
    Settles target (.int seconds) (ofSeconds seconds) := by
  rw [ofSeconds]
  cases found : Time.Epoch.ofSeconds? seconds with
  | some stamp =>
      have inside := Time.Epoch.of_seconds_iff.mp ⟨stamp, found⟩
      exact settles_ok stamp (by simp [escapes_iff, inside])
  | none =>
      have outside : ¬Time.Epoch.IsSecond seconds := by
        rw [← Time.Epoch.of_seconds_iff, found]
        nofun
      exact settles_out_of_range (by simp [escapes_iff, outside])

theorem of_julian_day_settles (day : Binary64) :
    Settles .stamp (.real day) (ofJulianDay day) := by
  rw [ofJulianDay]
  cases day with
  | nan =>
      intro fault
      constructor
      · intro raised
        cases raised
        exact .notADay
      · intro escapes
        cases escapes
        rfl
  | infinity negative =>
      have read : Time.Epoch.ofJulianDay (.infinity negative) = .error .outOfRange := by
        rw [Time.Epoch.ofJulianDay, Time.Epoch.julian_day_eq]
        rfl
      rw [read]
      apply settles_out_of_range
      intro fault
      constructor
      · intro escapes
        cases escapes
        rfl
      · rintro rfl
        exact .endless negative
  | finite negative rank =>
      rcases Time.Epoch.of_julian_day_cases negative rank with ⟨inside, stamp, read⟩ | ⟨outside, read⟩
      · rw [read]
        apply settles_ok
        intro fault escapes
        cases escapes with
        | day outside => exact outside inside
      · rw [read]
        apply settles_out_of_range
        intro fault
        constructor
        · intro escapes
          cases escapes
          rfl
        · rintro rfl
          exact .day outside

theorem stamp_text_settles (s : Text) : Settles .stamp (.text s) (stamp (.text s)) := by
  rw [stamp]
  cases read : Time.Stamp.read s with
  | ok found => exact settles_ok found (by simp [stamp_text_escapes_iff, read])
  | error reason =>
      cases reason with
      | malformed =>
          exact settles_refused (refuse_refusal (Value.IsCell.text s).short _)
            (by simp [stamp_text_escapes_iff, read])
      | outOfRange => exact settles_out_of_range (by simp [stamp_text_escapes_iff, read])

theorem stamp_settles (cell : value.IsCell) : Settles .stamp value (stamp value) := by
  cases value with
  | moment moment => exact settles_ok _ nofun
  | text s => exact stamp_text_settles s
  | int seconds =>
      apply of_seconds_settles
      intro fault
      constructor
      · intro escapes
        cases escapes with
        | stampSeconds outside => exact ⟨rfl, outside⟩
      · rintro ⟨rfl, outside⟩
        exact .stampSeconds outside
  | real day => exact of_julian_day_settles day
  | _ => exact settles_refused (refuse_refusal cell.short _) nofun

/-- A moment is read from any text of a stamp, whatever its offset. -/
theorem moment_text_in_range {s : Text} : Time.Moment.read s ≠ .error .outOfRange := by
  rw [Time.Moment.read]
  intro left
  cases read : Time.Iso.moment? (Text.trim s) with
  | some moment =>
      rw [read] at left
      cases left
  | none =>
      simp only [Time.Stamp.read, Text.trim_trim, read] at left
      cases found : Time.Layout.stamp? (Text.trim s) <;> rw [found] at left <;> cases left

theorem moment_settles (cell : value.IsCell) : Settles .moment value (moment value) := by
  cases value with
  | moment moment => exact settles_ok _ nofun
  | text s =>
      rw [moment]
      cases read : Time.Moment.read s with
      | ok found => exact settles_ok found nofun
      | error reason =>
          cases reason with
          | malformed => exact settles_refused (refuse_refusal cell.short _) nofun
          | outOfRange => exact absurd read moment_text_in_range
  | int seconds =>
      refine Settles.map (of_seconds_settles ?_) _
      intro fault
      constructor
      · intro escapes
        cases escapes with
        | momentSeconds outside => exact ⟨rfl, outside⟩
      · rintro ⟨rfl, outside⟩
        exact .momentSeconds outside
  | _ => exact settles_refused (refuse_refusal cell.short _) nofun

theorem span_text_escapes_iff {s : Text} {fault : Fault} :
    Escapes .span (.text s) fault ↔
      fault = .outOfRange ∧ Time.Span.read s = .error .outOfRange := by
  rw [← Wire.span_text_escapes_iff]
  constructor
  · intro escapes
    cases escapes with
    | spanText sent => exact sent
  · exact .spanText

theorem span_text_settles (s : Text) : Settles .span (.text s) (span (.text s)) := by
  rw [span]
  cases read : Time.Span.read s with
  | ok found => exact settles_ok found (by simp [span_text_escapes_iff, read])
  | error reason =>
      cases reason with
      | outOfRange => exact settles_out_of_range (by simp [span_text_escapes_iff, read])
      | _ =>
          exact settles_refused (refuse_refusal (Value.IsCell.text s).short _)
            (by simp [span_text_escapes_iff, read])

theorem span_settles (cell : value.IsCell) : Settles .span value (span value) := by
  cases value with
  | span found => exact settles_ok _ nofun
  | text s => exact span_text_settles s
  | _ => exact settles_refused (refuse_refusal cell.short _) nofun

theorem bytes_settles (cell : value.IsCell) : Settles .bytes value (bytes value) := by
  cases value with
  | null => exact settles_ok _ nofun
  | binary holder found =>
      cases cell
      exact settles_ok _ nofun
  | _ => exact settles_refused (refuse_refusal cell.short _) nofun

/-! All targets. -/

theorem whole_settles {P : Int -> Prop} {target : Target} {outcome : Outcome Value}
    (reads : ReadsWhole P value outcome) (safe : ∀ fault, ¬Escapes target value fault) :
    Settles target value outcome :=
  fun fault => iff_of_false (reads.not_fault fault) (safe fault)

/-- A cast of a cell is a fault exactly where the cell escapes. -/
theorem convert_settles (target : Target) (cell : value.IsCell) :
    Settles target value (convert target value) := by
  cases target with
  | truth => exact settles_ok _ nofun
  | byte => exact whole_settles (byte_reads cell.short) nofun
  | int16 => exact whole_settles (width_reads .int16 cell.short) nofun
  | int32 => exact whole_settles (width_reads .int32 cell.short) nofun
  | int64 => exact whole_settles (width_reads .int64 cell.short) nofun
  | real => exact (real_settles cell).map _
  | decimal => exact (decimal_settles cell).map _
  | text =>
      obtain ⟨s, read⟩ := text_read cell
      refine Settles.map ?_ _
      rw [read]
      exact settles_ok s nofun
  | char => exact (char_settles cell).map _
  | uuid => exact (uuid_settles cell).map _
  | stamp => exact (stamp_settles cell).map _
  | moment => exact (moment_settles cell).map _
  | span => exact (span_settles cell).map _
  | bytes => exact (bytes_settles cell).map _

end Cast
end SqlPipeline
