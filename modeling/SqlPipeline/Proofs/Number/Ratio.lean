import Mathlib.Data.Rat.Floor
import Mathlib.Tactic.Linarith
import SqlPipeline.Number.Binary64
import SqlPipeline.Number.Numeral

/-!
Signed ratios of whole numbers, and their whole parts. The quotient of two whole numbers is the whole
part of their ratio, and a ratio is whole when the division leaves no rest.
-/

namespace SqlPipeline

/-- A signed ratio of whole numbers. -/
def ratio (negative : Bool) (numerator denominator : Nat) : ℚ :=
  (Numeral.signed negative numerator : ℚ) / denominator

/-- A number with its fraction cut off. -/
def wholePart (q : ℚ) : Int :=
  if 0 ≤ q then ⌊q⌋ else ⌈q⌉

/-! Ratios. -/

theorem ratio_negative (numerator denominator : Nat) :
    ratio true numerator denominator = -((numerator : ℚ) / denominator) := by
  simp [ratio, Numeral.signed, neg_div]

theorem ratio_positive (numerator denominator : Nat) :
    ratio false numerator denominator = (numerator : ℚ) / denominator := by
  simp [ratio, Numeral.signed]

theorem whole_part_int (n : Int) : wholePart (n : ℚ) = n := by
  simp [wholePart]

theorem whole_part_neg (q : ℚ) : wholePart (-q) = -wholePart q := by
  rcases lt_trichotomy q 0 with below | rfl | above
  · have opposite : 0 ≤ -q := by linarith
    simp [wholePart, not_le.mpr below, opposite, Int.floor_neg]
  · simp [wholePart]
  · have opposite : ¬0 ≤ -q := by linarith
    simp only [wholePart, if_neg opposite, if_pos above.le, Int.ceil_neg]

/-- The whole part of a ratio is its quotient. -/
theorem whole_part_ratio (negative : Bool) (numerator denominator : Nat) :
    wholePart (ratio negative numerator denominator) =
      Numeral.signed negative (numerator / denominator) := by
  have quotient : wholePart ((numerator : ℚ) / denominator) = (numerator / denominator : Nat) := by
    have least : (0 : ℚ) ≤ (numerator : ℚ) / denominator := by positivity
    rw [wholePart, if_pos least, Rat.floor_natCast_div_natCast]
    rfl
  cases negative with
  | true => rw [ratio_negative, whole_part_neg, quotient]; rfl
  | false => rw [ratio_positive, quotient]; rfl

theorem whole_part_eq_iff {q : ℚ} : (wholePart q : ℚ) = q ↔ ∃ n : Int, q = n := by
  constructor
  · exact fun same => ⟨wholePart q, same.symm⟩
  · rintro ⟨n, rfl⟩
    rw [whole_part_int]

/-- A ratio is whole when its denominator divides its numerator. -/
theorem ratio_whole_iff {negative : Bool} {numerator denominator : Nat} (positive : 0 < denominator)
    {n : Int} :
    ratio negative numerator denominator = n ↔
      numerator % denominator = 0 ∧ n = Numeral.signed negative (numerator / denominator) := by
  have nonzero : (denominator : ℚ) ≠ 0 := Nat.cast_ne_zero.mpr (Nat.ne_of_gt positive)
  constructor
  · intro same
    have quotient := whole_part_ratio negative numerator denominator
    rw [same, whole_part_int] at quotient
    refine ⟨?_, quotient⟩
    rw [ratio, div_eq_iff nonzero] at same
    have product : Numeral.signed negative numerator = n * denominator := by exact_mod_cast same
    apply Nat.mod_eq_zero_of_dvd
    apply Int.natCast_dvd_natCast.mp
    cases negative with
    | true => exact (Int.dvd_neg).mp (Dvd.intro_left n product.symm)
    | false => exact Dvd.intro_left n product.symm
  · rintro ⟨exact, rfl⟩
    have product : numerator / denominator * denominator = numerator :=
      Nat.div_mul_cancel (Nat.dvd_of_mod_eq_zero exact)
    rw [ratio, div_eq_iff nonzero]
    conv_lhs => rw [← product]
    cases negative with
    | true => simp [Numeral.signed]
    | false => simp [Numeral.signed]

theorem Binary64.one_positive : 0 < unitsPerOne := by decide +kernel

end SqlPipeline
