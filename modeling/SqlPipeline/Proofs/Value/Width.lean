import SqlPipeline.DbType
import SqlPipeline.Proofs.Value.Denotation
import SqlPipeline.Proofs.Value.Overlong
import SqlPipeline.Proofs.Value.Refusal

/-!
The widths of integers. Each has a declared type and a getter, and the getter gives the cells that are
whole numbers of the width and refuses all others. A narrower width is read as a wider one too.
-/

namespace SqlPipeline

inductive Width where
  | int16
  | int32
  | int64
  deriving DecidableEq, Repr

namespace Width

def type : Width -> DbType
  | int16 => .int16
  | int32 => .int32
  | int64 => .int64

def target : Width -> Cast.Target
  | int16 => .int16
  | int32 => .int32
  | int64 => .int64

def bits : Width -> Nat
  | int16 => 16
  | int32 => 32
  | int64 => 64

def InRange : Width -> Int -> Prop
  | int16, n => -32768 ≤ n ∧ n ≤ 32767
  | int32, n => -2147483648 ≤ n ∧ n ≤ 2147483647
  | int64, n => -9223372036854775808 ≤ n ∧ n ≤ 9223372036854775807

instance (width : Width) (n : Int) : Decidable (width.InRange n) :=
  match width with
  | int16 => inferInstanceAs (Decidable (_ ∧ _))
  | int32 => inferInstanceAs (Decidable (_ ∧ _))
  | int64 => inferInstanceAs (Decidable (_ ∧ _))

theorem fits_iff {width : Width} {n : Int} : Cast.fits width.bits n = true ↔ width.InRange n := by
  simp only [Cast.fits, Bool.and_eq_true, decide_eq_true_eq]
  cases width <;> simp only [bits, InRange] <;> omega

/-- The whole numbers of a width are written with few digits. -/
theorem InRange.short {width : Width} {n : Int} (inRange : width.InRange n) :
    n.natAbs < 10 ^ Numeral.longest := by
  apply Numeral.lt_longest
  cases width <;> simp only [InRange] at inRange <;> omega

end Width

/-- The outcome is the refusal of a cast. -/
def Cast.IsRefusal {α : Type} (outcome : Outcome α) : Prop :=
  ∃ error : LibraryError, outcome = .error (.library error) ∧ error.kind = .invalidCast

namespace Cast

theorem IsRefusal.not_ok {α : Type} {outcome : Outcome α} (refused : IsRefusal outcome) (got : α) :
    outcome ≠ .ok got := by
  obtain ⟨error, raised, -⟩ := refused
  rw [raised]
  nofun

theorem IsRefusal.not_fault {α : Type} {outcome : Outcome α} (refused : IsRefusal outcome)
    (fault : Fault) : outcome ≠ .error (.fault fault) := by
  obtain ⟨error, raised, -⟩ := refused
  rw [raised]
  nofun

theorem IsRefusal.map {α β : Type} {outcome : Outcome α} (refused : IsRefusal outcome) (f : α -> β) :
    IsRefusal (outcome.map f) := by
  obtain ⟨error, raised, cast⟩ := refused
  exact ⟨error, by rw [raised]; rfl, cast⟩

/-- A value that can be shown is refused as such. -/
theorem refuse_refusal {α : Type} {value : Value} (short : ¬value.HoldsOverlong) (target : Text) :
    IsRefusal (refuse value target : Outcome α) := by
  cases shown : value.inspect? with
  | none => exact absurd ((Value.inspect_none_iff value).mp shown) short
  | some s => exact ⟨_, by rw [refuse, inspected, shown]; rfl, rfl⟩

/-- The outcome is the number that a cell is, if it is one of a class, and a refusal otherwise. -/
def ReadsWhole (P : Int -> Prop) (value : Value) (outcome : Outcome Value) : Prop :=
  (∃ n, value.IsWhole n ∧ P n ∧ outcome = .ok (.int n)) ∨
    (∀ n, value.IsWhole n -> ¬P n) ∧ IsRefusal outcome

section ReadsWhole

variable {P Q : Int -> Prop} {value got : Value} {outcome other : Outcome Value}

theorem ReadsWhole.ok_iff (reads : ReadsWhole P value outcome) :
    outcome = .ok got ↔ ∃ n, got = .int n ∧ value.IsWhole n ∧ P n := by
  rcases reads with ⟨n, whole, member, read⟩ | ⟨none, refused⟩
  · rw [read]
    constructor
    · intro same
      cases same
      exact ⟨n, rfl, whole, member⟩
    · rintro ⟨other, rfl, again, -⟩
      rw [again.unique whole]
  · refine iff_of_false (refused.not_ok got) ?_
    rintro ⟨n, -, whole, member⟩
    exact none n whole member

theorem ReadsWhole.refused (reads : ReadsWhole P value outcome)
    (none : ∀ n, value.IsWhole n -> ¬P n) : IsRefusal outcome := by
  rcases reads with ⟨n, whole, member, -⟩ | ⟨-, refused⟩
  · exact absurd member (none n whole)
  · exact refused

/-- What is read as one of a class is read as one of a wider class. -/
theorem ReadsWhole.wider (narrow : ReadsWhole P value outcome) (wide : ReadsWhole Q value other)
    (within : ∀ n, P n -> Q n) (read : outcome = .ok got) : other = .ok got := by
  obtain ⟨n, same, whole, member⟩ := narrow.ok_iff.mp read
  exact wide.ok_iff.mpr ⟨n, same, whole, within n member⟩

theorem ReadsWhole.not_fault (reads : ReadsWhole P value outcome) (fault : Fault) :
    outcome ≠ .error (.fault fault) := by
  rcases reads with ⟨n, -, -, read⟩ | ⟨-, refused⟩
  · rw [read]
    nofun
  · exact refused.not_fault fault

end ReadsWhole

theorem integer_cases (width : Width) {value : Value} (short : ¬value.HoldsOverlong) :
    (∃ n, value.IsWhole n ∧ width.InRange n ∧ integer width.bits value = .ok n) ∨
      (∀ n, value.IsWhole n -> ¬width.InRange n) ∧ IsRefusal (integer width.bits value) := by
  unfold integer
  cases found : whole? value with
  | none =>
      refine .inr ⟨?_, refuse_refusal short _⟩
      intro n whole
      rw [Value.whole_iff.mpr whole] at found
      cases found
  | some n =>
      have whole := Value.whole_iff.mp found
      by_cases fitting : fits width.bits n = true
      · refine .inl ⟨n, whole, Width.fits_iff.mp fitting, ?_⟩
        simp only [fitting, if_true]
      · refine .inr ⟨?_, ?_⟩
        · intro other again inRange
          rw [again.unique whole] at inRange
          exact fitting (Width.fits_iff.mpr inRange)
        · simp only [fitting, Bool.false_eq_true, if_false]
          exact refuse_refusal short _

/-- A cell is read with a width, or refused. -/
theorem width_reads (width : Width) {value : Value} (short : ¬value.HoldsOverlong) :
    ReadsWhole width.InRange value (convert width.target value) := by
  have made : convert width.target value = (integer width.bits value).map .int := by
    cases width <;> rfl
  rw [made]
  rcases integer_cases width short with ⟨n, whole, inRange, read⟩ | ⟨none, refused⟩
  · exact .inl ⟨n, whole, inRange, by rw [read]; rfl⟩
  · exact .inr ⟨none, refused.map _⟩

def IsByte (n : Int) : Prop :=
  0 ≤ n ∧ n ≤ 255

theorem byte_in_range {n : Int} (byte : IsByte n) : Width.int16.InRange n := by
  simp only [IsByte, Width.InRange] at *
  omega

theorem in_range_not_overlong {width : Width} {n : Int} (inRange : width.InRange n) :
    ¬(Value.int n).HoldsOverlong := by
  intro held
  cases held with
  | int long => exact absurd inRange.short (Nat.not_lt.mpr long)

/-- A cell is read as a byte, or refused; the number that is refused may be any that 16 bits hold. -/
theorem byte_reads {value : Value} (short : ¬value.HoldsOverlong) :
    ReadsWhole IsByte value (convert .byte value) := by
  have made : convert .byte value = (integer Width.int16.bits value >>= fun n =>
      if 0 ≤ n ∧ n < 256 then .ok n else refuse (.int n) "a byte").map .int := rfl
  rw [made]
  rcases integer_cases .int16 short with ⟨n, whole, inRange, read⟩ | ⟨none, refused⟩
  · rw [read, Outcome.ok_bind]
    by_cases small : 0 ≤ n ∧ n < 256
    · rw [if_pos small]
      exact .inl ⟨n, whole, ⟨small.1, Int.le_of_lt_add_one small.2⟩, rfl⟩
    · rw [if_neg small]
      refine .inr ⟨?_, (refuse_refusal (in_range_not_overlong inRange) _).map _⟩
      intro other again byte
      rw [again.unique whole] at byte
      exact small ⟨byte.1, Int.lt_add_one_of_le byte.2⟩
  · refine .inr ⟨fun n whole byte => none n whole (byte_in_range byte), ?_⟩
    obtain ⟨error, raised, cast⟩ := refused
    exact ⟨error, by rw [raised]; rfl, cast⟩

end Cast
end SqlPipeline
