import SqlPipeline.Proofs.Text.Order
import SqlPipeline.Proofs.Time.StoredStamp

/-!
Stored stamps sort like time. Each field of the text has a fixed width and the greater unit comes
first, so that texts are ordered as dates are, and on one date as times of day are. The main result
is on moments: their texts are ordered as their instants in whole milliseconds.
-/

namespace SqlPipeline
namespace Time

namespace Date

theorem ordinal_lt_of_year {first second : Date} (earlier : first.year < second.year) :
    first.ordinal < second.ordinal := by
  have inYear := day_in_year first
  have next := days_before_next_year first.year first.year_pos
  have passed := before_mono days_before_next_year (Nat.le_add_left 1 first.year) earlier
  have day := second.day_pos
  simp only [ordinal]
  omega

theorem ordinal_lt_of_month {first second : Date} (year : first.year = second.year)
    (earlier : first.month < second.month) : first.ordinal < second.ordinal := by
  have next := days_before_next_month first.year first.month first.month_pos
  have passed := before_mono (days_before_next_month first.year)
    (Nat.le_add_left 1 first.month) earlier
  have inMonth := first.day_le
  have day := second.day_pos
  simp only [ordinal, ← year]
  omega

theorem ordinal_lt_of_day {first second : Date} (year : first.year = second.year)
    (month : first.month = second.month) (earlier : first.day < second.day) :
    first.ordinal < second.ordinal := by
  simp only [ordinal, year, month]
  omega

/-- Dates are in the order of their years, then months, then days. -/
theorem ordinal_lt_iff {first second : Date} :
    first.ordinal < second.ordinal ↔ first.year < second.year ∨ first.year = second.year ∧
      (first.month < second.month ∨ first.month = second.month ∧ first.day < second.day) := by
  constructor
  · intro earlier
    rcases Nat.lt_trichotomy first.year second.year with year | year | year
    · exact .inl year
    · refine .inr ⟨year, ?_⟩
      rcases Nat.lt_trichotomy first.month second.month with month | month | month
      · exact .inl month
      · refine .inr ⟨month, Nat.lt_of_not_le fun later => ?_⟩
        simp only [ordinal, year, month] at earlier
        omega
      · exact absurd (ordinal_lt_of_month year.symm month) (Nat.lt_asymm earlier)
    · exact absurd (ordinal_lt_of_year year) (Nat.lt_asymm earlier)
  · rintro (year | ⟨year, month | ⟨month, day⟩⟩)
    · exact ordinal_lt_of_year year
    · exact ordinal_lt_of_month year month
    · exact ordinal_lt_of_day year month day

theorem ordinal_injective {first second : Date} (same : first.ordinal = second.ordinal) :
    first = second := by
  have found := of_ordinal first
  rw [same, of_ordinal second] at found
  exact (Option.some.inj found).symm

theorem ordinal_eq_iff {first second : Date} : first.ordinal = second.ordinal ↔
    first.year = second.year ∧ first.month = second.month ∧ first.day = second.day := by
  constructor
  · intro same
    cases ordinal_injective same
    exact ⟨rfl, rfl, rfl⟩
  · rintro ⟨year, month, day⟩
    simp only [ordinal, year, month, day]

/-- The texts that begin with dates are in the order of the days, and on one day in that of what
stands behind. -/
theorem text_append_lt_iff (first second : Date) (s t : Text) :
    first.text ++ s < second.text ++ t ↔
      first.ordinal < second.ordinal ∨ first.ordinal = second.ordinal ∧ s < t := by
  have year := first.year_le
  have year' := second.year_le
  have month := first.month_le
  have month' := second.month_le
  have day : first.day ≤ 31 := Nat.le_trans first.day_le (days_in_month_le _ _)
  have day' : second.day ≤ 31 := Nat.le_trans second.day_le (days_in_month_le _ _)
  simp only [text, List.append_assoc, List.cons_append]
  rw [Text.padded_append_lt_iff (by decide) (by omega) (by omega), List.cons_lt_cons_iff,
    Text.padded_append_lt_iff (by decide) (by omega) (by omega), List.cons_lt_cons_iff,
    Text.padded_append_lt_iff (by decide) (by omega) (by omega), ordinal_lt_iff, ordinal_eq_iff]
  simp only [Char.lt_irrefl, false_or, true_and, and_or_left, or_assoc, and_assoc]

end Date

/-- Milliseconds since midnight. -/
def Clock.millis (clock : Clock) : Nat :=
  clock.micros / 1000

theorem Clock.stored_lt_iff (first second : Clock) :
    first.storedText < second.storedText ↔ first.millis < second.millis := by
  have hour := first.hour.isLt
  have hour' := second.hour.isLt
  have minute := first.minute.isLt
  have minute' := second.minute.isLt
  have second_ := first.second.isLt
  have second' := second.second.isLt
  have micro := first.micro.isLt
  have micro' := second.micro.isLt
  have last : Text.padded 3 (first.micro / 1000) < Text.padded 3 (second.micro / 1000) ↔
      first.micro.val / 1000 < second.micro.val / 1000 := by
    have order := Text.padded_append_lt_iff (by decide : 0 < 3)
      (by omega : first.micro.val / 1000 < 10 ^ 3) (by omega : second.micro.val / 1000 < 10 ^ 3) [] []
    simpa only [List.append_nil, List.lt_irrefl, and_false, or_false] using order
  simp only [storedText, List.append_assoc, List.cons_append]
  rw [Text.padded_append_lt_iff (by decide) (by omega) (by omega), List.cons_lt_cons_iff,
    Text.padded_append_lt_iff (by decide) (by omega) (by omega), List.cons_lt_cons_iff,
    Text.padded_append_lt_iff (by decide) (by omega) (by omega), List.cons_lt_cons_iff, last]
  simp only [Char.lt_irrefl, false_or, true_and, millis, micros]
  omega

namespace Stamp

theorem text_lt_iff (first second : Stamp) :
    first.text < second.text ↔ first.micros / 1000 < second.micros / 1000 := by
  have clock := first.clock.micros_lt
  have clock' := second.clock.micros_lt
  rw [text_eq, text_eq, Date.text_append_lt_iff, List.cons_lt_cons_iff, Clock.stored_lt_iff]
  simp only [Char.lt_irrefl, false_or, true_and, micros, Clock.millis, microsPerDay, microsPerSecond]
    at *
  omega

theorem text_to_millis (stamp : Stamp) : stamp.toMillis.text = stamp.text := by
  have kept : stamp.clock.micro.val / 1000 * 1000 / 1000 = stamp.clock.micro.val / 1000 := by omega
  simp only [text, toMillis, Clock.toMillis, kept]

theorem text_eq_iff (first second : Stamp) :
    first.text = second.text ↔ first.micros / 1000 = second.micros / 1000 := by
  have millis := first.to_millis_micros
  have millis' := second.to_millis_micros
  constructor
  · intro same
    have read := read_text first
    rw [same, read_text second] at read
    rw [← Except.ok.inj read] at millis
    omega
  · intro same
    have cut : first.toMillis = second.toMillis := micros_injective (by omega)
    rw [← text_to_millis first, cut, text_to_millis]

theorem length_text (stamp : Stamp) : stamp.text.length = 23 := by
  have micro := stamp.clock.micro.isLt
  have hour : (Text.padded 2 stamp.clock.hour).length = 2 :=
    Text.length_padded (by decide) (by omega)
  have minute : (Text.padded 2 stamp.clock.minute).length = 2 :=
    Text.length_padded (by decide) (by omega)
  have second : (Text.padded 2 stamp.clock.second).length = 2 :=
    Text.length_padded (by decide) (by omega)
  have millis : (Text.padded 3 (stamp.clock.micro / 1000)).length = 3 :=
    Text.length_padded (by decide) (by omega)
  simp only [text_eq, Clock.storedText, List.length_append, List.length_cons, Date.length_text, hour,
    minute, second, millis]

end Stamp

namespace Moment

/-- Whole milliseconds to the instant of a moment. -/
def millis (moment : Moment) : Int :=
  moment.instant / 1000

/-- A moment inside of the calendar is stored as the text of a stamp in the same millisecond, and
reads back as the stamp at its start. -/
theorem text_of_inside {moment : Moment} (inside : ¬moment.LeavesCalendar) :
    ∃ utc : Stamp, moment.text? = some utc.text ∧ moment.millis = (utc.micros / 1000 : Nat) ∧
      (utc.toMillis.micros : Int) = 1000 * moment.millis := by
  rw [← utc_stamp_none_iff, ← ne_eq, Option.ne_none_iff_exists'] at inside
  obtain ⟨utc, found⟩ := inside
  have place := utc_stamp_iff.mp found
  refine ⟨utc, by rw [text?, found, Option.map_some], ?_, ?_⟩
  · rw [millis, ← place, Int.natCast_ediv]
    rfl
  · rw [Stamp.to_millis_micros, millis, ← place]
    omega

end Moment

/-- Any two moments, with offsets or without, are stored as texts of one length whose order is that
of their instants in whole milliseconds, and each text reads back as the stamp at that millisecond.
The form with an offset stores the same text as the one without, and is lost when that is. -/
theorem stored_texts_sort :
    (∀ left right : Moment, ¬left.LeavesCalendar -> ¬right.LeavesCalendar ->
      ∃ s t : Text, left.text? = some s ∧ right.text? = some t ∧ s.length = 23 ∧ t.length = 23 ∧
        (s < t ↔ left.millis < right.millis) ∧ (s = t ↔ left.millis = right.millis) ∧
        (∃ stamp, Stamp.read s = .ok stamp ∧ (stamp.micros : Int) = 1000 * left.millis) ∧
        ∃ stamp, Stamp.read t = .ok stamp ∧ (stamp.micros : Int) = 1000 * right.millis) ∧
    ∀ moment : Moment, moment.offsetText? = moment.text? := by
  refine ⟨fun left right leftInside rightInside => ?_, Moment.offset_text⟩
  obtain ⟨first, leftText, leftMillis, leftStart⟩ := Moment.text_of_inside leftInside
  obtain ⟨second, rightText, rightMillis, rightStart⟩ := Moment.text_of_inside rightInside
  refine ⟨first.text, second.text, leftText, rightText, first.length_text, second.length_text, ?_, ?_,
    ⟨first.toMillis, first.read_text, leftStart⟩, second.toMillis, second.read_text, rightStart⟩
  · rw [Stamp.text_lt_iff, leftMillis, rightMillis, Int.ofNat_lt]
  · rw [Stamp.text_eq_iff, leftMillis, rightMillis, Int.ofNat_inj]

def november29 : Date :=
  ⟨2023, 11, 29, by decide, by decide, by decide, by decide, by decide, by decide⟩

def november30 : Date :=
  ⟨2023, 11, 30, by decide, by decide, by decide, by decide, by decide, by decide⟩

/-- Half past eleven in the evening, an hour behind universal time. -/
def lateWest : Moment := ⟨⟨november29, .ofMicros 84600000999⟩, some (-3600000000)⟩

/-- Half past one in the next night, two hours ahead of universal time. -/
def earlyEast : Moment := ⟨⟨november30, .ofMicros 5400000000⟩, some 7200000000⟩

/-- The stored texts are in the order of the instants, not in that of the local dates. -/
theorem stored_texts_sort_across_zones :
    (¬earlyEast.LeavesCalendar ∧ ¬lateWest.LeavesCalendar) ∧
      ∃ s t : Text, earlyEast.text? = some s ∧ lateWest.text? = some t ∧ s < t := by
  have insideEast : ¬earlyEast.LeavesCalendar := by
    rw [← Moment.utc_stamp_none_iff]
    decide
  have insideWest : ¬lateWest.LeavesCalendar := by
    rw [← Moment.utc_stamp_none_iff]
    decide
  obtain ⟨s, t, east, west, _, _, order, _⟩ := stored_texts_sort.1 _ _ insideEast insideWest
  have earlier : earlyEast.millis < lateWest.millis := by decide
  exact ⟨⟨insideEast, insideWest⟩, s, t, east, west, order.mpr earlier⟩

end Time
end SqlPipeline
