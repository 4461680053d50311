import SqlPipeline.Proofs.Number.Overflow
import SqlPipeline.Proofs.Time.Calendar
import SqlPipeline.Proofs.Time.StoredSpan
import SqlPipeline.Proofs.Value.Overlong
import SqlPipeline.Proofs.Value.Refusal
import SqlPipeline.Proofs.Wire.Undecodable

/-!
How values fail to be sent as their declared type. A value that does not represent the type is refused
as a cast. What is too great is not: a number beyond the wanted kind of number, a moment that leaves the
calendar on its way to universal time, a span beyond the greatest one, and an integer that is too long
for a text come out as faults. There are no others.
-/

namespace SqlPipeline

/-- What values are sent as. -/
inductive Carrier where
  | flag
  | integer
  | real
  | stamp
  | offsetStamp
  | span
  | blob
  | text
  deriving DecidableEq, Repr

def DbType.carrier : DbType -> Carrier
  | boolean => .flag
  | int16 => .integer
  | int32 => .integer
  | int64 => .integer
  | double => .real
  | decimal => .real
  | datetime => .stamp
  | datetimeOffset => .offsetStamp
  | time => .span
  | binary => .blob
  | _ => .text

inductive Value.IsInfinite : Value -> Prop where
  | real (negative : Bool) : IsInfinite (real (.infinity negative))
  | decimal (negative : Bool) : IsInfinite (decimal (.infinity negative))

namespace Wire

open Cast (OnlyRefuses only_refuses_ok only_refuses_fault)

/-- A value that is neither sent nor refused, and the fault that comes of it. -/
inductive Escapes : Carrier -> Value -> Fault -> Prop where
  | infinite {value : Value} (infinite : value.IsInfinite) : Escapes .integer value .outOfRange
  | great {n : Int} (great : Binary64.overflow ≤ n.natAbs) : Escapes .real (.int n) .outOfRange
  | stamp {moment : Time.Moment} (leaves : moment.LeavesCalendar) :
      Escapes .stamp (.moment moment) .outOfRange
  | stampText {s : Text} {moment : Time.Moment} (other : Time.Layout.stamp? (Text.trim s) = none)
      (read : Time.Iso.moment? (Text.trim s) = some moment) (leaves : moment.LeavesCalendar) :
      Escapes .stamp (.text s) .outOfRange
  | offsetStamp {moment : Time.Moment} (leaves : moment.LeavesCalendar) :
      Escapes .offsetStamp (.moment moment) .outOfRange
  | offsetStampText {s : Text} {moment : Time.Moment}
      (read : Time.Iso.moment? (Text.trim s) = some moment) (leaves : moment.LeavesCalendar) :
      Escapes .offsetStamp (.text s) .outOfRange
  | spanText {s : Text} {fields : Time.Span.Fields}
      (read : Time.Span.fields? (Text.trim s) = some fields)
      (short : fields.days.length ≤ Numeral.longest) (beyond : fields.IsBeyond) :
      Escapes .span (.text s) .outOfRange
  | overlong {value : Value} (held : value.HoldsOverlong) : Escapes .text value .badContent

theorem Escapes.unique {carrier : Carrier} {value : Value} {fault other : Fault}
    (escapes : Escapes carrier value fault) (again : Escapes carrier value other) : fault = other := by
  cases escapes <;> cases again <;> rfl

/-- An outcome that is a fault exactly for the values that escape, and else fails as a cast at most. -/
structure Settles (carrier : Carrier) (value : Value) (outcome : Outcome Content) : Prop where
  only : OnlyRefuses outcome
  fault_iff : ∀ fault, outcome = .error (.fault fault) ↔ Escapes carrier value fault

section Settles

variable {carrier : Carrier} {value : Value}

theorem settles_ok (content : Content) (safe : ∀ fault, ¬Escapes carrier value fault) :
    Settles carrier value (.ok content) :=
  ⟨only_refuses_ok content, fun fault => iff_of_false nofun (safe fault)⟩

theorem settles_refused {cause : Cause} (cast : cause.kind = .invalidCast)
    (safe : ∀ fault, ¬Escapes carrier value fault) :
    Settles carrier value (.error (.cause cause)) := by
  constructor
  · intro failure raised
    cases raised
    exact cast
  · exact fun fault => iff_of_false nofun (safe fault)

theorem settles_fault {fault : Fault} (escapes : Escapes carrier value fault) :
    Settles carrier value (.error (.fault fault)) := by
  constructor
  · exact only_refuses_fault fault
  · intro own
    constructor
    · intro raised
      cases raised
      exact escapes
    · intro again
      rw [escapes.unique again]

end Settles

/-! Numbers. -/

theorem integer_out_of_range_iff {value : Value} :
    value.integer = .error .outOfRange ↔ value.IsInfinite := by
  cases value with
  | real x =>
      cases x with
      | infinity negative => exact iff_of_true rfl (.real negative)
      | nan => exact iff_of_false nofun nofun
      | finite negative rank =>
          have whole := or_malformed_in_range (x := (Binary64.finite negative rank).truncate?)
          exact iff_of_false whole nofun
  | decimal d =>
      cases d with
      | infinity negative => exact iff_of_true rfl (.decimal negative)
      | nan negative signaling payload => exact iff_of_false nofun nofun
      | finite negative coefficient exponent => exact iff_of_false or_malformed_in_range nofun
  | text s => exact iff_of_false or_malformed_in_range nofun
  | binary holder bytes => exact iff_of_false or_malformed_in_range nofun
  | _ => exact iff_of_false nofun nofun

theorem integer_escapes_iff {value : Value} {fault : Fault} :
    Escapes .integer value fault ↔ fault = .outOfRange ∧ value.integer = .error .outOfRange := by
  rw [integer_out_of_range_iff]
  constructor
  · intro escapes
    cases escapes with
    | infinite infinite => exact ⟨rfl, infinite⟩
  · rintro ⟨rfl, infinite⟩
    exact .infinite infinite

theorem real_escapes_iff {value : Value} {fault : Fault} :
    Escapes .real value fault ↔ fault = .outOfRange ∧ value.realNumber = .error .outOfRange := by
  rw [real_out_of_range_iff]
  constructor
  · intro escapes
    cases escapes with
    | great great => exact ⟨rfl, _, rfl, too_great_iff.mpr great⟩
  · rintro ⟨rfl, n, rfl, great⟩
    exact .great (too_great_iff.mp great)

/-- A value that denotes no number is refused, unless what it denotes is too great. -/
theorem refuse_number_settles {carrier : Carrier} {value : Value} {read : Except NumberError α}
    (escapes_iff : ∀ fault, Escapes carrier value fault ↔
      fault = .outOfRange ∧ read = .error .outOfRange)
    {reason : NumberError} (failed : read = .error reason) (target : Text) :
    Settles carrier value (refuseNumber value target reason) := by
  cases reason with
  | outOfRange => exact settles_fault ((escapes_iff _).mpr ⟨rfl, failed⟩)
  | notNumeric => exact settles_refused rfl (by simp [escapes_iff, failed])
  | malformed => exact settles_refused rfl (by simp [escapes_iff, failed])

theorem integer_settles (value : Value) : Settles .integer value (encodeInteger value) := by
  rw [encodeInteger]
  cases read : value.integer with
  | error reason => exact refuse_number_settles (fun _ => integer_escapes_iff) read "int"
  | ok n =>
      dsimp only
      cases Numeral.integerText? n with
      | some digits => exact settles_ok _ (by simp [integer_escapes_iff, read])
      | none => exact settles_refused rfl (by simp [integer_escapes_iff, read])

theorem real_settles (value : Value) : Settles .real value (encodeReal value) := by
  rw [encodeReal]
  cases read : value.realNumber with
  | error reason => exact refuse_number_settles (fun _ => real_escapes_iff) read "float"
  | ok x => exact settles_ok _ (by simp [real_escapes_iff, read])

/-! Texts. -/

theorem text_escapes_iff {value : Value} {fault : Fault} :
    Escapes .text value fault ↔ fault = .badContent ∧ value.display? = none := by
  rw [Value.display_none_iff]
  constructor
  · intro escapes
    cases escapes with
    | overlong held => exact ⟨rfl, held⟩
  · rintro ⟨rfl, held⟩
    exact .overlong held

theorem text_settles (value : Value) : Settles .text value (encodeText value) := by
  rw [encodeText]
  cases shown : value.display? with
  | none => exact settles_fault (text_escapes_iff.mpr ⟨rfl, shown⟩)
  | some text => exact settles_ok _ (by simp [text_escapes_iff, shown])

theorem guid_settles (value : Value) : Settles .text value (encodeGuid value) := by
  unfold encodeGuid
  split
  · exact text_settles _
  · split
    · exact settles_ok _ (by simp [text_escapes_iff, Value.display?, Value.inspect?])
    · exact text_settles _
  · exact text_settles _

theorem blob_settles (value : Value) : Settles .blob value (encodeBlob value) := by
  cases value with
  | binary holder bytes => exact settles_ok _ nofun
  | _ => exact settles_refused rfl nofun

/-! Moments. -/

/-- A moment is stored unless it leaves the calendar. -/
theorem stored_settles {carrier : Carrier} {value : Value} {moment : Time.Moment}
    (escapes_iff : ∀ fault, Escapes carrier value fault ↔
      fault = .outOfRange ∧ moment.LeavesCalendar) :
    Settles carrier value (stored moment.text?) := by
  simp only [← Time.Moment.utc_stamp_none_iff] at escapes_iff
  rw [Time.Moment.text?]
  cases found : moment.utcStamp? with
  | none => exact settles_fault ((escapes_iff _).mpr ⟨rfl, found⟩)
  | some stamp => exact settles_ok _ (by simp [escapes_iff, found])

theorem stamp_escapes_iff {moment : Time.Moment} {fault : Fault} :
    Escapes .stamp (.moment moment) fault ↔ fault = .outOfRange ∧ moment.LeavesCalendar := by
  constructor
  · intro escapes
    cases escapes with
    | stamp leaves => exact ⟨rfl, leaves⟩
  · rintro ⟨rfl, leaves⟩
    exact .stamp leaves

theorem offset_stamp_escapes_iff {moment : Time.Moment} {fault : Fault} :
    Escapes .offsetStamp (.moment moment) fault ↔ fault = .outOfRange ∧ moment.LeavesCalendar := by
  constructor
  · intro escapes
    cases escapes with
    | offsetStamp leaves => exact ⟨rfl, leaves⟩
  · rintro ⟨rfl, leaves⟩
    exact .offsetStamp leaves

theorem stamp_text_escapes_iff {s : Text} {fault : Fault} :
    Escapes .stamp (.text s) fault ↔
      fault = .outOfRange ∧ Time.Stamp.read s = .error .outOfRange := by
  constructor
  · intro escapes
    cases escapes with
    | stampText other read leaves =>
        simp [Time.Stamp.read, other, read, Time.Moment.utc_stamp_none_iff.mpr leaves]
  · rintro ⟨rfl, lost⟩
    unfold Time.Stamp.read at lost
    dsimp only at lost
    split at lost
    · cases lost
    · rename_i other
      split at lost
      · cases lost
      · rename_i moment read
        split at lost
        · rename_i leaves
          exact .stampText other read (Time.Moment.utc_stamp_none_iff.mp leaves)
        · cases lost

theorem offset_stamp_text_escapes_iff {s : Text} {fault : Fault} :
    Escapes .offsetStamp (.text s) fault ↔ fault = .outOfRange ∧
      ∃ moment, Time.Iso.moment? (Text.trim s) = some moment ∧ moment.LeavesCalendar := by
  constructor
  · intro escapes
    cases escapes with
    | offsetStampText read leaves => exact ⟨rfl, _, read, leaves⟩
  · rintro ⟨rfl, moment, read, leaves⟩
    exact .offsetStampText read leaves

theorem stamp_settles (value : Value) : Settles .stamp value (encodeStamp value) := by
  cases value with
  | text s =>
      rw [encodeStamp]
      cases read : Time.Stamp.read s with
      | ok stamp => exact settles_ok _ (by simp [stamp_text_escapes_iff, read])
      | error reason =>
          cases reason with
          | malformed => exact settles_refused rfl (by simp [stamp_text_escapes_iff, read])
          | outOfRange => exact settles_fault (stamp_text_escapes_iff.mpr ⟨rfl, read⟩)
  | moment moment => exact stored_settles fun _ => stamp_escapes_iff
  | date date => exact settles_ok _ nofun
  | _ => exact settles_refused rfl nofun

/-- A moment without an offset is in universal time as it stands. -/
theorem or_utc_leaves_iff {moment : Time.Moment} :
    moment.orUtc.LeavesCalendar ↔ moment.LeavesCalendar := by
  rw [← Time.Moment.utc_stamp_none_iff, ← Time.Moment.utc_stamp_none_iff,
    Time.Moment.utc_stamp_or_utc]

theorem offset_stamp_settles (value : Value) : Settles .offsetStamp value (encodeMoment value) := by
  cases value with
  | text s =>
      rw [encodeMoment, Time.Moment.read]
      cases read : Time.Iso.moment? (Text.trim s) with
      | some moment =>
          apply stored_settles
          intro fault
          simp [offset_stamp_text_escapes_iff, read, or_utc_leaves_iff]
      | none =>
          have safe : ∀ fault, ¬Escapes .offsetStamp (.text s) fault := by
            simp [offset_stamp_text_escapes_iff, read]
          simp only [Time.Stamp.read, Text.trim_trim, read]
          cases Time.Layout.stamp? (Text.trim s) with
          | none => exact settles_refused rfl safe
          | some stamp => exact settles_ok _ safe
  | moment moment =>
      apply stored_settles
      intro fault
      rw [offset_stamp_escapes_iff, or_utc_leaves_iff]
  | _ => exact settles_refused rfl nofun

/-! Spans. -/

theorem span_text_escapes_iff {s : Text} {fault : Fault} :
    Escapes .span (.text s) fault ↔
      fault = .outOfRange ∧ Time.Span.read s = .error .outOfRange := by
  constructor
  · intro escapes
    cases escapes with
    | spanText found short beyond => exact ⟨rfl, (Time.Span.read_fields found short).mpr beyond⟩
  · rintro ⟨rfl, lost⟩
    cases found : Time.Span.fields? (Text.trim s) with
    | none => simp [Time.Span.read, found] at lost
    | some fields =>
        by_cases short : fields.days.length ≤ Numeral.longest
        · exact .spanText found short ((Time.Span.read_fields found short).mp lost)
        · simp [Time.Span.read, found, Nat.not_le.mp short] at lost

theorem span_settles (value : Value) : Settles .span value (encodeSpan value) := by
  cases value with
  | text s =>
      rw [encodeSpan]
      cases read : Time.Span.read s with
      | ok span => exact settles_ok _ (by simp [span_text_escapes_iff, read])
      | error reason =>
          cases reason with
          | outOfRange => exact settles_fault (span_text_escapes_iff.mpr ⟨rfl, read⟩)
          | _ => exact settles_refused rfl (by simp [span_text_escapes_iff, read])
  | span span => exact settles_ok _ nofun
  | clock clock offset? => exact settles_ok _ nofun
  | _ => exact settles_refused rfl nofun

/-! All types. -/

theorem null_safe {carrier : Carrier} {fault : Fault} : ¬Escapes carrier .null fault := by
  intro escapes
  cases escapes with
  | infinite infinite => cases infinite
  | overlong held => cases held

theorem content_settles (type : DbType) (value : Value) :
    Settles type.carrier value (encodeContent type value) := by
  by_cases absent : value.isNull = true
  · have sent : encodeContent type value = .ok .null := by
      unfold encodeContent
      exact if_pos absent
    rw [sent]
    cases value with
    | null => exact settles_ok _ fun _ => null_safe
    | _ => cases absent
  · unfold encodeContent
    rw [if_neg absent]
    cases type with
    | boolean => exact settles_ok _ nofun
    | int16 => exact integer_settles value
    | int32 => exact integer_settles value
    | int64 => exact integer_settles value
    | double => exact real_settles value
    | decimal => exact real_settles value
    | datetime => exact stamp_settles value
    | datetimeOffset => exact offset_stamp_settles value
    | time => exact span_settles value
    | guid => exact guid_settles value
    | binary => exact blob_settles value
    | _ => exact text_settles value

theorem encode_eq (name? : Option Text) (type : DbType) (value : Value) :
    encode name? type value = (encodeContent type value).map (Argument.mk name?) := by
  unfold encode
  cases encodeContent type value <;> rfl

/-- Encoding a value fails as a cast, or by a fault exactly where the value escapes what its type is
sent as; in no other way. -/
theorem encoding_outcome (name? : Option Text) (type : DbType) (value : Value) :
    ((∃ argument, encode name? type value = .ok argument) ∨
      (∃ error, encode name? type value = .error (.library error) ∧ error.kind = .invalidCast) ∨
      ∃ fault, encode name? type value = .error (.fault fault)) ∧
    ∀ fault, encode name? type value = .error (.fault fault) ↔ Escapes type.carrier value fault := by
  have settled := content_settles type value
  rw [encode_eq]
  constructor
  · have only := settled.only.map (Argument.mk name?)
    cases sent : (encodeContent type value).map (Argument.mk name?) with
    | ok argument => exact .inl ⟨argument, rfl⟩
    | error failure =>
        have cast := only failure sent
        cases failure with
        | library error => exact .inr (.inl ⟨error, rfl, cast⟩)
        | fault fault => exact .inr (.inr ⟨fault, rfl⟩)
        | canceled sql => exact cast.elim
  · intro fault
    rw [Outcome.map_eq_error, settled.fault_iff]

/-- The first hour of the calendar in a zone that is an hour ahead. -/
def firstHourAhead : Time.Moment :=
  ⟨.atMidnight ⟨1, 1, 1, by decide, by decide, by decide, by decide, by decide, by decide⟩,
    some 3600000000⟩

/-- One value of each kind that escapes: a number without end, one that no real number is near to, a
moment before the calendar, a span of a day too many, and a number that is too long for a text. -/
theorem encoding_outcome_escapes :
    encode none .int64 (.real (.infinity false)) = .error (.fault .outOfRange) ∧
    encode none .double (.int (10 ^ 400)) = .error (.fault .outOfRange) ∧
    encode none .datetime (.moment firstHourAhead) = .error (.fault .outOfRange) ∧
    encode none .time (.text "1000000000.00:00:00") = .error (.fault .outOfRange) ∧
    encode none .string (.int (10 ^ Numeral.longest)) = .error (.fault .badContent) := by
  refine ⟨?_, ?_, ?_, ?_, ?_⟩
  · apply ((encoding_outcome none .int64 _).2 _).mpr
    exact .infinite (.real false)
  · apply ((encoding_outcome none .double _).2 _).mpr
    exact .great (by decide +kernel)
  · apply ((encoding_outcome none .datetime _).2 _).mpr
    exact .stamp (Time.Moment.utc_stamp_none_iff.mp (by decide))
  · apply ((encoding_outcome none .time _).2 _).mpr
    exact span_text_escapes_iff.mpr ⟨rfl, by decide⟩
  · apply ((encoding_outcome none .string _).2 _).mpr
    exact .overlong (Value.overlong_power _ (Nat.le_refl _))

end Wire
end SqlPipeline
