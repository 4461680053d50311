import SqlPipeline.Proofs.Time.Calendar
import SqlPipeline.Proofs.Time.StoredSpan
import SqlPipeline.Time.Epoch

/-!
The extent of the calendar. It has a date for each of its 3652059 days and for no other, hence a stamp
for each instant from the first day on until the last one is over.
-/

namespace SqlPipeline
namespace Time
namespace Date

/-- The last day of the year 9999. -/
def lastDay : Nat := 3652059

/-- A walk that the spans ahead are enough for stops inside of one of them. -/
theorem walk_inside {size before : Nat -> Nat}
    (next : ∀ index, 1 ≤ index -> before (index + 1) = before index + size index)
    (fuel : Nat) {start amount : Nat} (positive : 1 ≤ start)
    (within : before start + amount < before (start + fuel)) :
    ∃ index rest, walk size fuel start amount = (index, rest) ∧ start ≤ index ∧
      index < start + fuel ∧ rest < size index ∧ before index + rest = before start + amount := by
  induction fuel generalizing start amount with
  | zero =>
      rw [Nat.add_zero] at within
      omega
  | succ fuel ih =>
      have step := next start positive
      rw [walk]
      by_cases inside : amount < size start
      · rw [if_pos inside]
        exact ⟨start, amount, rfl, Nat.le_refl _, by omega, inside, rfl⟩
      · have shifted : start + 1 + fuel = start + (fuel + 1) := by omega
        have later : before (start + 1) + (amount - size start) < before (start + 1 + fuel) := by
          rw [shifted]
          omega
        obtain ⟨index, rest, walked, from_, until_, fits, position⟩ :=
          ih (Nat.le_add_left 1 start) later
        rw [if_neg inside]
        exact ⟨index, rest, walked, by omega, by omega, fits, by omega⟩

theorem days_before_end : daysBeforeYear 10000 = lastDay := by decide

theorem ordinal_bounds (date : Date) : 1 ≤ date.ordinal ∧ date.ordinal ≤ lastDay := by
  have year := before_mono days_before_next_year (Nat.le_add_left 1 date.year)
    (Nat.succ_le_succ date.year_le)
  have inYear := day_in_year date
  have day := date.day_pos
  rw [days_before_next_year date.year date.year_pos, days_before_end] at year
  unfold ordinal
  omega

/-- Every day of the calendar has its date. -/
theorem date_of_day {day : Nat} (first : 1 ≤ day) (last : day ≤ lastDay) :
    ∃ date, ofOrdinal? day = some date := by
  have cycleStart := days_before_cycle ((day - 1) / 146097)
  have cycleEnd := days_before_cycle ((day - 1) / 146097 + 1)
  have shifted : 400 * ((day - 1) / 146097 + 1) + 1 = 400 * ((day - 1) / 146097) + 1 + 400 := by
    omega
  rw [shifted] at cycleEnd
  obtain ⟨year, rest, byYear, fromCycle, _, inYear, years⟩ :=
    walk_inside days_before_next_year 400 (Nat.le_add_left 1 (400 * ((day - 1) / 146097)))
      (show _ + (day - 1) % 146097 < _ by omega)
  have start : daysBeforeMonth year 1 = 0 := rfl
  have yearEnd := days_before_year_end year
  obtain ⟨month, left, byMonth, fromFirst, toLast, inMonth, months⟩ :=
    walk_inside (days_before_next_month year) 12 (Nat.le_refl 1)
      (show daysBeforeMonth year 1 + rest < daysBeforeMonth year 13 by omega)
  have yearLe : year ≤ 9999 := by
    apply Nat.le_of_not_lt
    intro beyond
    have passed := before_mono days_before_next_year (by decide : 1 ≤ 10000) beyond
    rw [days_before_end] at passed
    omega
  let date : Date :=
    ⟨year, month, left + 1, by omega, yearLe, fromFirst, by omega, by omega, by omega⟩
  have nonzero : day ≠ 0 := by omega
  refine ⟨date, ?_⟩
  simp only [ofOrdinal?, if_neg nonzero, year_of_eq_walk, byYear, month_of_eq_walk, byMonth]
  exact of_valid date

theorem of_ordinal_iff {day : Nat} :
    (∃ date, ofOrdinal? day = some date) ↔ 1 ≤ day ∧ day ≤ lastDay := by
  constructor
  · rintro ⟨date, found⟩
    rw [← ordinal_of_found found]
    exact ordinal_bounds date
  · exact fun day => date_of_day day.1 day.2

end Date

namespace Stamp

/-- The stamps are at the instants from the start of the first day to the end of the last. -/
theorem of_micros_iff {n : Int} :
    (∃ stamp, ofMicros? n = some stamp) ↔
      (microsPerDay : Int) ≤ n ∧ n < (Date.lastDay + 1) * microsPerDay := by
  have days (date : Date) := Date.ordinal_bounds date
  constructor
  · rintro ⟨stamp, found⟩
    have clock := stamp.clock.micros_lt
    have bounds := Date.ordinal_bounds stamp.date
    have at_ := micros_of_found found
    simp only [micros, microsPerDay, microsPerSecond, Date.lastDay] at *
    omega
  · rintro ⟨first, last⟩
    have day : 1 ≤ n.toNat / microsPerDay ∧ n.toNat / microsPerDay ≤ Date.lastDay := by
      simp only [microsPerDay, microsPerSecond, Date.lastDay] at *
      omega
    obtain ⟨date, found⟩ := Date.of_ordinal_iff.mpr day
    have notBefore : ¬n < 0 := by omega
    exact ⟨_, by rw [ofMicros?, if_neg notBefore, found, Option.map_some]⟩

end Stamp

namespace Epoch

/-- Seconds since the start of 1970 at which there is a stamp. -/
def IsSecond (seconds : Int) : Prop :=
  -62135596800 ≤ seconds ∧ seconds ≤ 253402300799

/-- Microseconds since the start of 1970 at which there is a stamp. -/
def IsMicro (micros : Int) : Prop :=
  -62135596800000000 ≤ micros ∧ micros < 253402300800000000

theorem after_iff {span : Span} : (∃ stamp, after? span = some stamp) ↔ IsMicro span.micros := by
  rw [after?, Stamp.of_micros_iff]
  simp only [IsMicro, Epoch.micros, microsPerDay, microsPerSecond, Date.lastDay]
  omega

/-- There is a span of any number of microseconds at which there is a stamp. -/
theorem span_of_micro {micros : Int} (inside : IsMicro micros) :
    ∃ span, Span.ofMicros? micros = some span ∧ span.micros = micros := by
  have bounds : -(86399999913600000000 : Int) ≤ micros ∧ micros < 86400000000000000000 := by
    unfold IsMicro at inside
    omega
  exact ⟨⟨micros, bounds.1, bounds.2⟩, dif_pos bounds, rfl⟩

theorem of_seconds_iff {seconds : Int} :
    (∃ stamp, ofSeconds? seconds = some stamp) ↔ IsSecond seconds := by
  have scaled : IsSecond seconds ↔ IsMicro (seconds * 1000000) := by
    simp only [IsSecond, IsMicro]
    omega
  rw [scaled]
  constructor
  · rintro ⟨stamp, found⟩
    obtain ⟨span, inside, reached⟩ := Option.bind_eq_some_iff.mp found
    rw [← Span.micros_of_found inside]
    exact after_iff.mp ⟨stamp, reached⟩
  · intro inside
    obtain ⟨span, found, same⟩ := span_of_micro inside
    obtain ⟨stamp, reached⟩ := after_iff.mpr (same ▸ inside)
    exact ⟨stamp, Option.bind_eq_some_iff.mpr ⟨span, found, reached⟩⟩

end Epoch
end Time
end SqlPipeline
