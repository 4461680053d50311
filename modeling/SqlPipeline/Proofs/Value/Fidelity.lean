import SqlPipeline.Proofs.Time.StoredSpan
import SqlPipeline.Proofs.Time.StoredStamp
import SqlPipeline.Proofs.Uuid
import SqlPipeline.Proofs.Wire.Cell
import SqlPipeline.Value.Cast

/-!
Values that are bound and read back. A value is sent after the type that is inferred from it, comes
back as a cell, and is cast to the type of its getter. Most values come back as they are; stamps lose
what is finer than a millisecond, moments lose their offset but not their instant, dates come back as
their midnight, and times of day as the span since midnight.
-/

namespace SqlPipeline

open Cast (Target)
open Time (Moment Span Stamp)

/-- The span from midnight to a time of day. -/
def Time.Clock.sinceMidnight (clock : Time.Clock) : Span :=
  ⟨clock.micros, clock.micros_in_span.1, clock.micros_in_span.2⟩

/-- What a bound value reads as through the getter of a type. -/
inductive ReadsAs : Value -> Target -> Value -> Prop where
  | bool (b : Bool) : ReadsAs (.bool b) .truth (.bool b)
  | int (n : Int) (least : -2 ^ 63 ≤ n) (greatest : n ≤ 2 ^ 63 - 1) :
      ReadsAs (.int n) .int64 (.int n)
  | real (negative : Bool) (rank : Fin (2047 * 2 ^ 52)) :
      ReadsAs (.real (.finite negative rank)) .real (.real (.finite negative rank))
  | text (s : Text) : ReadsAs (.text s) .text (.text s)
  | binary (holder : Holder) (bytes : Bytes) :
      ReadsAs (.binary holder bytes) .bytes (.binary .fixed bytes)
  | uuid (uuid : Uuid) : ReadsAs (.uuid uuid) .uuid (.uuid uuid)
  | stamp (stamp : Stamp) :
      ReadsAs (.moment (.naive stamp)) .stamp (.moment (.naive stamp.toMillis))
  | date (date : Time.Date) :
      ReadsAs (.date date) .stamp (.moment (.naive (.atMidnight date)))
  | moment (stamp utc : Stamp) (offset : Time.Offset)
      (shifted : (utc.micros : Int) = stamp.micros - offset) :
      ReadsAs (.moment ⟨stamp, some offset⟩) .moment (.moment (.utc utc.toMillis))
  | span (span : Span) : ReadsAs (.span span) .span (.span span)
  | clock (clock : Time.Clock) : ReadsAs (.clock clock none) .span (.span clock.sinceMidnight)

/-- What the getter of a type makes of a cell: null is replaced where the type has a replacement. -/
def Cast.Target.Yields (target : Target) (stored got : Value) : Prop :=
  if stored.isNull then ∃ replacement, target.ofNull? = some replacement ∧
    Cast.convert target replacement = .ok got
  else Cast.convert target stored = .ok got

/-- A content that a value is sent as, and that reads as another value when it comes back. -/
def Wire.Content.Carries (content : Wire.Content) (value : Value) (target : Target)
    (got : Value) : Prop :=
  Wire.encodeContent (DbType.infer value) value = .ok content ∧
    ∃ stored, Wire.decodeCell .anything content.cell = .ok stored ∧ target.Yields stored got

namespace Wire

theorem Content.carries_of_text {s : Text} {value got : Value} {target : Target} (notNil : s ≠ [])
    (encoded : encodeContent (DbType.infer value) value = .ok (.text s))
    (converted : Cast.convert target (.text s) = .ok got) :
    (Content.text s).Carries value target got := by
  refine ⟨encoded, .text s, ?_, converted⟩
  rw [decode_text, if_neg notNil]

theorem Content.carries_bool (b : Bool) :
    (Content.integer (Text.ofInt (if b then 1 else 0))).Carries (.bool b) .truth (.bool b) := by
  have small : (if b then 1 else 0 : Int).natAbs < 10 ^ 20 := by
    cases b <;> decide
  refine ⟨?_, .int (if b then 1 else 0), decode_integer (Numeral.lt_longest small), ?_⟩
  · cases b <;> rfl
  · cases b <;> rfl

theorem Content.carries_int {n : Int} (least : -2 ^ 63 ≤ n) (greatest : n ≤ 2 ^ 63 - 1) :
    (Content.integer (Text.ofInt n)).Carries (.int n) .int64 (.int n) := by
  have short : n.natAbs < 10 ^ Numeral.longest := Numeral.lt_longest (by omega)
  have fits : Cast.fits 64 n = true := by
    simp only [Cast.fits, Bool.and_eq_true, decide_eq_true_eq]
    omega
  refine ⟨?_, .int n, decode_integer short, ?_⟩
  · have digits : Numeral.integerText? n = some (Text.ofInt n) := if_pos short
    simp only [encodeContent, Value.isNull, DbType.infer, encodeInteger, Value.integer, digits]
    rfl
  · change (Cast.integer 64 (.int n)).map Value.int = .ok (.int n)
    simp only [Cast.integer, Cast.whole?, fits]
    rfl

theorem Content.carries_real (negative : Bool) (rank : Fin (2047 * 2 ^ 52)) :
    (Content.real (.finite negative rank)).Carries (.real (.finite negative rank)) .real
      (.real (.finite negative rank)) :=
  ⟨rfl, .real (.finite negative rank), decode_real _, rfl⟩

theorem Content.carries_text (s : Text) : (Content.text s).Carries (.text s) .text (.text s) := by
  by_cases empty : s = []
  · subst empty
    exact ⟨rfl, .null, rfl, .text [], rfl, rfl⟩
  · exact carries_of_text empty rfl rfl

theorem Content.carries_binary (holder : Holder) (bytes : Bytes) :
    (Content.blob (Base64.encode bytes)).Carries (.binary holder bytes) .bytes
      (.binary .fixed bytes) := by
  by_cases empty : bytes = []
  · subst empty
    exact ⟨rfl, .null, decode_blob [], .binary .fixed [], rfl, rfl⟩
  · refine ⟨rfl, .binary .fixed bytes, ?_, rfl⟩
    rw [decode_blob, if_neg empty]

theorem Content.carries_uuid (uuid : Uuid) :
    (Content.text uuid.text).Carries (.uuid uuid) .uuid (.uuid uuid) := by
  apply carries_of_text uuid.text_ne_nil rfl
  have nonempty : uuid.text.isEmpty = false := by simpa using uuid.text_ne_nil
  simp only [Cast.convert, Cast.uuid, Value.toUuid, Value.uuidOfText, nonempty, Uuid.of_text]
  rfl

theorem stored_text_ne_nil (stamp : Stamp) : stamp.text ≠ [] := by
  rw [Stamp.text_eq]
  simp

/-- What is stored as a stamp reads as that stamp, cut off to milliseconds. -/
theorem Content.carries_stamp {value : Value} {stamp : Stamp}
    (encoded : encodeContent (DbType.infer value) value = .ok (.text stamp.text)) :
    (Content.text stamp.text).Carries value .stamp (.moment (.naive stamp.toMillis)) := by
  apply carries_of_text (stored_text_ne_nil stamp) encoded
  simp only [Cast.convert, Cast.stamp, Stamp.read_text, Cast.ofRead]
  rfl

theorem Content.carries_moment {stamp utc : Stamp} {offset : Time.Offset}
    (shifted : (utc.micros : Int) = stamp.micros - offset) :
    (Content.text utc.text).Carries (.moment ⟨stamp, some offset⟩) .moment
      (.moment (.utc utc.toMillis)) := by
  apply carries_of_text (stored_text_ne_nil utc)
  · simp only [encodeContent, Value.isNull, DbType.infer, Option.isSome_some, encodeMoment,
      Moment.offsetText?, Moment.orUtc, Moment.text?, Moment.utc_stamp shifted, Option.map_some]
    rfl
  · simp only [Cast.convert, Cast.moment, Moment.read_text, Cast.ofRead]
    rfl

theorem Content.carries_span {value : Value} {s : Text} {span : Span} (notNil : s ≠ [])
    (encoded : encodeContent (DbType.infer value) value = .ok (.text s))
    (read : Span.read s = .ok span) : (Content.text s).Carries value .span (.span span) := by
  apply carries_of_text notNil encoded
  simp only [Cast.convert, Cast.span, read]
  rfl

theorem clock_text_ne_nil (clock : Time.Clock) : Time.clockText clock none ≠ [] := by
  rw [Span.clock_text_eq]
  simp [Span.timeText]

theorem span_text_ne_nil (span : Span) : span.text ≠ [] := by
  rw [Span.text_eq]
  simp [Span.timeText]

/-- Every value that has a getter is sent as a content that carries it. -/
theorem Content.carries_of_reads {value got : Value} {target : Target}
    (reads : ReadsAs value target got) : ∃ content : Content, content.Carries value target got := by
  cases reads with
  | bool b => exact ⟨_, carries_bool b⟩
  | int n least greatest => exact ⟨_, carries_int least greatest⟩
  | real negative rank => exact ⟨_, carries_real negative rank⟩
  | text s => exact ⟨_, carries_text s⟩
  | binary holder bytes => exact ⟨_, carries_binary holder bytes⟩
  | uuid uuid => exact ⟨_, carries_uuid uuid⟩
  | stamp stamp => exact ⟨_, carries_stamp rfl⟩
  | date date =>
      rw [← Stamp.to_millis_midnight]
      exact ⟨_, carries_stamp rfl⟩
  | moment stamp utc offset shifted => exact ⟨_, carries_moment shifted⟩
  | span span => exact ⟨_, carries_span (span_text_ne_nil span) rfl (Span.read_text span)⟩
  | clock clock =>
      exact ⟨_, carries_span (clock_text_ne_nil clock) rfl (Span.read_clock_text rfl)⟩

end Wire
end SqlPipeline
