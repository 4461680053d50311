import SqlPipeline.Proofs.Number.Order
import SqlPipeline.Proofs.Number.Ratio
import SqlPipeline.Proofs.Time.Extent

/-!
Julian days at which there is a stamp. The day is counted from 1970 on and scaled to microseconds, with
a rounding at each step; as all of them keep the order, the days that fall into the calendar are those
from its first instant to its last, and it is enough to look at these two and at the numbers next to
them.
-/

namespace SqlPipeline
namespace Time
namespace Span

open Binary64 (units unitsPerOne nearestRank rounded)

/-- A number of units scaled to microseconds, before it is rounded to whole ones. -/
def scaledUnits (unit amount : Nat) : Nat :=
  amount / unitsPerOne * unit * unitsPerOne + units (nearestRank (unit * (amount % unitsPerOne)) 1)

def scaledMagnitude (unit amount : Nat) : Nat :=
  rounded unitsPerOne (scaledUnits unit amount)

theorem scaled_micros_eq (unit : Nat) (negative : Bool) (rank : Nat) :
    scaledMicros unit negative rank = Numeral.signed negative (scaledMagnitude unit (units rank)) :=
  rfl

theorem of_count_finite {unit : Nat} {negative : Bool} {rank : Fin (2047 * 2 ^ 52)}
    {micros : Int}
    (scaled : scaledMicros unit negative rank = micros) :
    ofCount unit (.finite negative rank) =
      match ofMicros? micros with
      | none => .error .outOfRange
      | some span => .ok span := by
  subst scaled
  rfl

/-- A fraction of a unit is scaled to no more than the unit, which is a number of its own. -/
theorem scaled_units_mono {unit amount greater : Nat}
    (exact : units (nearestRank (unit * unitsPerOne) 1) = unit * unitsPerOne)
    (le : amount ≤ greater) : scaledUnits unit amount ≤ scaledUnits unit greater := by
  have positive := Binary64.one_positive
  have wholes : amount / unitsPerOne ≤ greater / unitsPerOne := Nat.div_le_div_right le
  unfold scaledUnits
  rcases Nat.eq_or_lt_of_le wholes with same | less
  · have fractions : amount % unitsPerOne ≤ greater % unitsPerOne := by
      have first := Nat.div_add_mod amount unitsPerOne
      have second := Nat.div_add_mod greater unitsPerOne
      rw [same] at first
      omega
    rw [same]
    apply Nat.add_le_add_left
    exact Binary64.units_le_iff.mpr (Binary64.nearest_rank_mono (Nat.mul_le_mul_left unit fractions))
  · have below : unit * (amount % unitsPerOne) ≤ unit * unitsPerOne :=
      Nat.mul_le_mul_left unit (Nat.le_of_lt (Nat.mod_lt _ positive))
    have one : units (nearestRank (unit * (amount % unitsPerOne)) 1) ≤ unit * unitsPerOne := by
      rw [← exact]
      exact Binary64.units_le_iff.mpr (Binary64.nearest_rank_mono below)
    calc amount / unitsPerOne * unit * unitsPerOne
            + units (nearestRank (unit * (amount % unitsPerOne)) 1)
        ≤ amount / unitsPerOne * unit * unitsPerOne + unit * unitsPerOne :=
          Nat.add_le_add_left one _
      _ = (amount / unitsPerOne + 1) * unit * unitsPerOne := by
          rw [Nat.add_mul, Nat.one_mul, Nat.add_mul]
      _ ≤ greater / unitsPerOne * unit * unitsPerOne :=
          Nat.mul_le_mul_right _ (Nat.mul_le_mul_right _ less)
      _ ≤ _ := Nat.le_add_right _ _

theorem scaled_magnitude_mono {unit amount greater : Nat}
    (exact : units (nearestRank (unit * unitsPerOne) 1) = unit * unitsPerOne)
    (le : amount ≤ greater) : scaledMagnitude unit amount ≤ scaledMagnitude unit greater :=
  Binary64.rounded_mono unitsPerOne (scaled_units_mono exact le)

end Span

namespace Epoch

open Binary64 (units unitsPerOne nearestRank signedUnits)

/-- The rank of the Julian day at the start of 1970. -/
def base : Nat := nearestRank (4881175 * unitsPerOne) 2

/-- Microseconds in a number of units of a day, with the number and the microseconds rounded. -/
def elapsedMagnitude (amount : Nat) : Nat :=
  Span.scaledMagnitude microsPerDay (units (nearestRank amount 1))

def elapsed (amount : Int) : Int :=
  Numeral.signed (amount < 0) (elapsedMagnitude amount.natAbs)

theorem day_exact : units (nearestRank (microsPerDay * unitsPerOne) 1) = microsPerDay * unitsPerOne := by
  decide +kernel

theorem elapsed_magnitude_mono {amount greater : Nat} (le : amount ≤ greater) :
    elapsedMagnitude amount ≤ elapsedMagnitude greater :=
  Span.scaled_magnitude_mono day_exact (Binary64.units_le_iff.mpr (Binary64.nearest_rank_mono le))

theorem elapsed_mono {amount greater : Int} (le : amount ≤ greater) : elapsed amount ≤ elapsed greater := by
  unfold elapsed
  by_cases negative : amount < 0
  · by_cases alike : greater < 0
    · have magnitudes := elapsed_magnitude_mono (show greater.natAbs ≤ amount.natAbs by omega)
      simp only [negative, alike, decide_true, Numeral.signed, if_true]
      omega
    · simp only [negative, alike, decide_true, decide_false, Numeral.signed, if_true,
        Bool.false_eq_true, if_false]
      omega
  · have alike : ¬greater < 0 := by omega
    have magnitudes := elapsed_magnitude_mono (show amount.natAbs ≤ greater.natAbs by omega)
    simp only [negative, alike, decide_false, Numeral.signed, Bool.false_eq_true, if_false]
    omega

/-- The day of the calendar's first instant, and that of the instant after its last. -/
def firstDay : Nat := nearestRank (3442851 * unitsPerOne) 2

def endDay : Nat := nearestRank (10746969 * unitsPerOne) 2

theorem days_exact :
    2 * units base = 4881175 * unitsPerOne ∧ 2 * units firstDay = 3442851 * unitsPerOne ∧
      2 * units endDay = 10746969 * unitsPerOne := by
  decide +kernel

/-- What elapses until the first and the last instants, and the numbers just before them. -/
theorem elapsed_at_ends :
    -62135596800000000 ≤ elapsed (units firstDay - units base) ∧
      elapsed (units (firstDay - 1) - units base) < -62135596800000000 ∧
      253402300800000000 ≤ elapsed (units endDay - units base) ∧
      elapsed (units (endDay - 1) - units base) < 253402300800000000 := by
  decide +kernel

theorem ranks_below : base < Binary64.ranks ∧ endDay < Binary64.ranks ∧ 0 < firstDay ∧ 0 < endDay := by
  decide +kernel

theorem base_before_end : base < endDay := by
  decide +kernel

theorem julian_day_eq : julianDay = .finite false ⟨base, ranks_below.1⟩ := by
  change Binary64.ofRank false base = _
  rw [Binary64.ofRank, dif_pos (show base < 2047 * 2 ^ 52 from ranks_below.1)]

/-- Below a rank means up to the rank before it. -/
theorem signed_units_lt_iff {negative : Bool} {rank limit : Nat} (positive : 0 < limit) :
    signedUnits negative rank < units limit ↔ signedUnits negative rank ≤ units (limit - 1) := by
  have some := Binary64.units_pos positive
  cases negative with
  | true =>
      simp only [signedUnits, if_true]
      omega
  | false =>
      simp only [signedUnits, Bool.false_eq_true, if_false, Nat.cast_lt, Nat.cast_le,
        Binary64.units_lt_iff, Binary64.units_le_iff]
      omega

/-- The instants of the calendar come of the days from the first on and before the end. -/
theorem elapsed_inside_iff {negative : Bool} {rank : Nat} :
    IsMicro (elapsed (signedUnits negative rank - units base)) ↔
      units firstDay ≤ signedUnits negative rank ∧ signedUnits negative rank < units endDay := by
  obtain ⟨first, beforeFirst, last, beforeLast⟩ := elapsed_at_ends
  obtain ⟨-, -, firstPositive, endPositive⟩ := ranks_below
  constructor
  · rintro ⟨least, most⟩
    constructor
    · apply Int.not_lt.mp
      intro below
      have order := elapsed_mono (Int.sub_le_sub_right ((signed_units_lt_iff firstPositive).mp below)
        (units base))
      omega
    · apply Int.not_le.mp
      intro beyond
      have order := elapsed_mono (Int.sub_le_sub_right beyond (units base))
      omega
  · rintro ⟨least, most⟩
    have lower := elapsed_mono (Int.sub_le_sub_right least (units base))
    have upper := elapsed_mono (Int.sub_le_sub_right ((signed_units_lt_iff endPositive).mp most)
      (units base))
    exact ⟨Int.le_trans first lower, Int.lt_of_le_of_lt upper beforeLast⟩

theorem finite_inside {negative : Bool} {rank : Nat}
    (inside : IsMicro (elapsed (signedUnits negative rank - units base))) :
    nearestRank (signedUnits negative rank - units base).natAbs 1 < Binary64.ranks := by
  obtain ⟨least, most⟩ := elapsed_inside_iff.mp inside
  have within : (signedUnits negative rank - units base).natAbs ≤ units endDay := by
    have order := Binary64.units_le_iff.mpr (Nat.le_of_lt base_before_end)
    omega
  have ranks := Binary64.nearest_rank_mono within
  rw [Binary64.nearest_rank_units] at ranks
  exact Nat.lt_of_le_of_lt ranks ranks_below.2.1

theorem of_count_units (negativeZero : Bool) (amount : Int) :
    Span.ofCount microsPerDay (Binary64.ofUnits negativeZero amount) =
      if nearestRank amount.natAbs 1 < Binary64.ranks then
        match Span.ofMicros? (elapsed amount) with
        | none => .error .outOfRange
        | some span => .ok span
      else .error .outOfRange := by
  unfold Binary64.ofUnits
  by_cases zero : amount = 0
  · subst zero
    have nothing : Span.scaledMicros microsPerDay negativeZero 0 = elapsed 0 := by
      rw [Span.scaled_micros_eq]
      revert negativeZero
      decide +kernel
    have finite : nearestRank (0 : Int).natAbs 1 < Binary64.ranks := by decide +kernel
    have least : Binary64.ofRank negativeZero 0 = .finite negativeZero ⟨0, by decide⟩ := rfl
    rw [if_pos rfl, if_pos finite, least]
    -- Closed microseconds would be computed.
    generalize elapsed 0 = micros at nothing ⊢
    exact Span.of_count_finite nothing
  · rw [if_neg zero, Binary64.ofRank]
    by_cases finite : nearestRank amount.natAbs 1 < Binary64.ranks
    · rw [if_pos finite]
      split
      · apply Span.of_count_finite
        rfl
      · exact absurd finite ‹_›
    · rw [if_neg finite]
      split
      · exact absurd ‹_› finite
      · rfl

theorem of_julian_day_eq (negative : Bool) (rank : Fin (2047 * 2 ^ 52)) :
    ofJulianDay (.finite negative rank) =
      afterSpan (Span.ofCount microsPerDay (Binary64.ofUnits (negative && true)
        (signedUnits negative rank - units base))) := by
  rw [ofJulianDay, julian_day_eq]
  rfl

/-- A Julian day of the calendar. -/
def IsDay (q : ℚ) : Prop :=
  3442851 / 2 ≤ q ∧ q < 10746969 / 2

theorem is_day_iff {negative : Bool} {rank : Nat} :
    IsDay (ratio negative (units rank) unitsPerOne) ↔
      units firstDay ≤ signedUnits negative rank ∧ signedUnits negative rank < units endDay := by
  obtain ⟨-, first, last⟩ := days_exact
  have positive : (0 : ℚ) < unitsPerOne := Nat.cast_pos.mpr Binary64.one_positive
  have firstUnits : (3442851 / 2 : ℚ) = units firstDay / unitsPerOne := by
    rw [div_eq_div_iff two_ne_zero positive.ne', mul_comm (units firstDay : ℚ)]
    exact_mod_cast first.symm
  have lastUnits : (10746969 / 2 : ℚ) = units endDay / unitsPerOne := by
    rw [div_eq_div_iff two_ne_zero positive.ne', mul_comm (units endDay : ℚ)]
    exact_mod_cast last.symm
  have own : ratio negative (units rank) unitsPerOne =
      (signedUnits negative rank : ℚ) / unitsPerOne := rfl
  rw [IsDay, firstUnits, lastUnits, own, div_le_div_iff_of_pos_right positive,
    div_lt_div_iff_of_pos_right positive]
  exact_mod_cast Iff.rfl

/-- A finite number is a Julian day at which there is a stamp, or it is out of range. -/
theorem of_julian_day_cases (negative : Bool) (rank : Fin (2047 * 2 ^ 52)) :
    (IsDay (ratio negative (units rank) unitsPerOne) ∧
        ∃ stamp, ofJulianDay (.finite negative rank) = .ok stamp) ∨
      ¬IsDay (ratio negative (units rank) unitsPerOne) ∧
        ofJulianDay (.finite negative rank) = .error .outOfRange := by
  rw [is_day_iff, ← elapsed_inside_iff, of_julian_day_eq, of_count_units]
  by_cases inside : IsMicro (elapsed (signedUnits negative rank - units base))
  · obtain ⟨span, found, same⟩ := span_of_micro inside
    obtain ⟨stamp, reached⟩ := after_iff.mpr (same ▸ inside)
    refine .inl ⟨inside, stamp, ?_⟩
    rw [if_pos (finite_inside inside), found]
    simp only [afterSpan, reached]
  · refine .inr ⟨inside, ?_⟩
    split
    · cases found : Span.ofMicros? (elapsed (signedUnits negative rank - units base)) with
      | none => rfl
      | some span =>
          have same := Span.micros_of_found found
          cases reached : after? span with
          | none => simp only [afterSpan, reached]
          | some stamp => exact absurd (same ▸ after_iff.mp ⟨stamp, reached⟩) inside
    · rfl

end Epoch
end Time
end SqlPipeline
