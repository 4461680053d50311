import SqlPipeline.Proofs.Outcome
import SqlPipeline.Value.Cast

/-!
How casts fail. A value that does not convert is refused as a cast, and all else that can go wrong
is a fault of its content; no other library error comes of a cast.
-/

namespace SqlPipeline

/-- A failure of a cast: the refusal of a value, or a fault of what it holds. -/
def Failure.IsOfCast : Failure -> Prop
  | .library error => error.kind = .invalidCast
  | .fault _ => True
  | .canceled _ => False

namespace Cast

/-- Nothing but failures of casts come of an outcome. -/
def OnlyRefuses (outcome : Outcome α) : Prop :=
  ∀ failure, outcome = .error failure -> failure.IsOfCast

section

variable {α β : Type}

theorem only_refuses_ok (x : α) : OnlyRefuses (.ok x) := by
  intro failure raised
  cases raised

theorem only_refuses_fault (fault : Fault) : OnlyRefuses (.error (.fault fault) : Outcome α) := by
  intro failure raised
  cases raised
  exact trivial

theorem only_refuses_lift (read : Except Fault α) : OnlyRefuses (Fault.lift read) := by
  cases read with
  | ok x => exact only_refuses_ok x
  | error fault => exact only_refuses_fault fault

theorem OnlyRefuses.bind {outcome : Outcome α} {next : α -> Outcome β}
    (first : OnlyRefuses outcome) (later : ∀ x, OnlyRefuses (next x)) :
    OnlyRefuses (outcome >>= next) := by
  cases outcome with
  | ok x => exact later x
  | error failure =>
      intro raisedFailure raised
      cases raised
      exact first failure rfl

theorem OnlyRefuses.map {outcome : Outcome α} (only : OnlyRefuses outcome) (f : α -> β) :
    OnlyRefuses (outcome.map f) := by
  cases outcome with
  | ok x => exact only_refuses_ok (f x)
  | error failure =>
      intro raisedFailure raised
      cases raised
      exact only failure rfl

theorem refuse_only (value : Value) (target : Text) : OnlyRefuses (refuse value target : Outcome α) := by
  refine (only_refuses_lift _).bind fun shown => ?_
  intro failure raised
  cases raised
  rfl

theorem or_refuse_only (value : Value) (target : Text) (read : Except NumberError α) :
    OnlyRefuses (orRefuse value target read) := by
  cases read with
  | ok x => exact only_refuses_ok x
  | error reason =>
      cases reason with
      | outOfRange => exact only_refuses_fault .outOfRange
      | notNumeric => exact refuse_only value target
      | malformed => exact refuse_only value target

theorem of_read_only (value : Value) (read : Except Time.ReadError α) :
    OnlyRefuses (ofRead value read) := by
  cases read with
  | ok x => exact only_refuses_ok x
  | error reason =>
      cases reason with
      | outOfRange => exact only_refuses_fault .outOfRange
      | malformed => exact refuse_only value "datetime"

end

theorem integer_only (bits : Nat) (value : Value) : OnlyRefuses (integer bits value) := by
  unfold integer
  cases whole? value with
  | none => exact refuse_only value _
  | some n =>
      by_cases fitting : fits bits n = true
      · simp only [fitting, if_true]
        exact only_refuses_ok n
      · simp only [fitting, Bool.false_eq_true, if_false]
        exact refuse_only value _

theorem byte_only (value : Value) : OnlyRefuses (byte value) := by
  refine (integer_only 16 value).bind fun n => ?_
  by_cases small : 0 ≤ n ∧ n < 256
  · rw [if_pos small]
    exact only_refuses_ok n
  · rw [if_neg small]
    exact refuse_only _ _

theorem real_only (value : Value) : OnlyRefuses (real value) := by
  unfold real
  by_cases bytes : isBytes value = true
  · rw [if_pos bytes]
    exact refuse_only value _
  · rw [if_neg bytes]
    exact or_refuse_only value _ _

theorem decimal_only (value : Value) : OnlyRefuses (decimal value) := by
  unfold decimal
  by_cases source : isDecimalSource value = true
  · rw [if_pos source]
    refine (only_refuses_lift _).bind fun shown => ?_
    cases Decimal.ofText? shown with
    | some d => exact only_refuses_ok d
    | none => exact refuse_only value _
  · rw [if_neg source]
    exact refuse_only value _

theorem stored_text_only (moment : Time.Moment) : OnlyRefuses (storedText moment) := by
  unfold storedText
  cases moment.utcStamp? with
  | some stamp => exact only_refuses_ok _
  | none => exact only_refuses_fault _

theorem text_only (value : Value) : OnlyRefuses (text value) := by
  cases value with
  | null => exact only_refuses_ok []
  | moment moment => exact stored_text_only moment
  | binary holder bytes =>
      cases holder with
      | fixed => exact only_refuses_ok _
      | growable => exact only_refuses_ok _
      | window =>
          simp only [text]
          exact only_refuses_lift _
  | _ =>
      simp only [text]
      exact only_refuses_lift _

theorem char_only (value : Value) : OnlyRefuses (char value) := by
  refine (text_only value).bind fun shown => ?_
  cases shown with
  | nil => exact refuse_only _ _
  | cons c rest => exact only_refuses_ok c

theorem uuid_only (value : Value) : OnlyRefuses (uuid value) := by
  unfold uuid
  cases value.toUuid with
  | ok found => exact only_refuses_ok found
  | error fault =>
      by_cases content : fault.isContent = true
      · simp only [content, if_true]
        refine (only_refuses_lift _).bind fun shown => ?_
        intro failure raised
        cases raised
        rfl
      · simp only [content, Bool.false_eq_true, if_false]
        exact only_refuses_fault fault

theorem of_seconds_only (seconds : Int) : OnlyRefuses (ofSeconds seconds) := by
  unfold ofSeconds
  cases Time.Epoch.ofSeconds? seconds with
  | some stamp => exact only_refuses_ok stamp
  | none => exact only_refuses_fault _

theorem of_julian_day_only (day : Binary64) : OnlyRefuses (ofJulianDay day) := by
  unfold ofJulianDay
  cases Time.Epoch.ofJulianDay day with
  | ok stamp => exact only_refuses_ok stamp
  | error reason => cases reason <;> exact only_refuses_fault _

theorem stamp_only (value : Value) : OnlyRefuses (stamp value) := by
  cases value with
  | moment moment => exact only_refuses_ok _
  | text s => exact of_read_only _ _
  | int seconds => exact of_seconds_only seconds
  | real day => exact of_julian_day_only day
  | _ => exact refuse_only _ _

theorem moment_only (value : Value) : OnlyRefuses (moment value) := by
  cases value with
  | moment found => exact only_refuses_ok _
  | text s => exact of_read_only _ _
  | int seconds => exact (of_seconds_only seconds).map _
  | _ => exact refuse_only _ _

theorem span_only (value : Value) : OnlyRefuses (span value) := by
  cases value with
  | span found => exact only_refuses_ok _
  | text s =>
      simp only [span]
      cases Time.Span.read s with
      | ok found => exact only_refuses_ok found
      | error reason =>
          cases reason with
          | outOfRange => exact only_refuses_fault _
          | _ => exact refuse_only _ _
  | _ => exact refuse_only _ _

theorem bytes_only (value : Value) : OnlyRefuses (bytes value) := by
  cases value with
  | null => exact only_refuses_ok _
  | binary holder found =>
      cases holder with
      | window => exact refuse_only _ _
      | _ => exact only_refuses_ok _
  | _ => exact refuse_only _ _

theorem convert_only (target : Target) (value : Value) : OnlyRefuses (convert target value) := by
  cases target with
  | truth => exact only_refuses_ok _
  | byte => exact (byte_only value).map _
  | int16 => exact (integer_only 16 value).map _
  | int32 => exact (integer_only 32 value).map _
  | int64 => exact (integer_only 64 value).map _
  | real => exact (real_only value).map _
  | decimal => exact (decimal_only value).map _
  | text => exact (text_only value).map _
  | char => exact (char_only value).map _
  | uuid => exact (uuid_only value).map _
  | stamp => exact (stamp_only value).map _
  | moment => exact (moment_only value).map _
  | span => exact (span_only value).map _
  | bytes => exact (bytes_only value).map _

end Cast
end SqlPipeline
