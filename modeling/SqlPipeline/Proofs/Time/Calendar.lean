import SqlPipeline.Time.Stamp

/-!
The calendar counts days without gaps: a date is found again from its ordinal, and a stamp from its
microseconds. Years and months are found by the same walk, which passes whole spans until what is
left fits into the next one.
-/

namespace SqlPipeline
namespace Time
namespace Date

/-- Passes spans of the sizes `size` from `index` on as long as they fit into `rest`. -/
def walk (size : Nat -> Nat) : Nat -> Nat -> Nat -> Nat × Nat
  | 0, index, rest => (index, rest)
  | fuel + 1, index, rest =>
      if rest < size index then (index, rest) else walk size fuel (index + 1) (rest - size index)

theorem year_of_eq_walk (fuel year rest : Nat) :
    yearOf fuel year rest = walk daysInYear fuel year rest := by
  induction fuel generalizing year rest with
  | zero => rfl
  | succ fuel ih => simp only [yearOf, walk, ih]

theorem month_of_eq_walk (year fuel month rest : Nat) :
    monthOf year fuel month rest = walk (daysInMonth year) fuel month rest := by
  induction fuel generalizing month rest with
  | zero => rfl
  | succ fuel ih => simp only [monthOf, walk, ih]

section Walk

variable {size before : Nat -> Nat}

theorem before_mono (next : ∀ index, 1 ≤ index -> before (index + 1) = before index + size index)
    {start index : Nat} (positive : 1 ≤ start) (le : start ≤ index) :
    before start ≤ before index := by
  induction le with
  | refl => exact Nat.le_refl _
  | @step index le ih =>
      rw [next index (Nat.le_trans positive le)]
      exact Nat.le_add_right_of_le ih

/-- The walk from `start` stops in the span that holds the position. -/
theorem walk_eq (next : ∀ index, 1 ≤ index -> before (index + 1) = before index + size index)
    {fuel start index rest amount : Nat} (positive : 1 ≤ start) (le : start ≤ index)
    (reach : index - start < fuel) (inside : rest < size index)
    (position : before start + amount = before index + rest) :
    walk size fuel start amount = (index, rest) := by
  induction fuel generalizing start amount with
  | zero => omega
  | succ fuel ih =>
      rcases Nat.eq_or_lt_of_le le with rfl | later
      · have same : amount = rest := by omega
        subst amount
        simp [walk, inside]
      · have step := next start positive
        have passed := before_mono next (by omega : 1 ≤ start + 1) later
        have beyond : ¬amount < size start := by omega
        simp only [walk, if_neg beyond]
        exact ih (by omega) later (by omega) (by omega)

/-- Passing a span moves on without leaving the position. -/
theorem walk_position (next : ∀ index, 1 ≤ index -> before (index + 1) = before index + size index)
    {fuel start index amount rest : Nat} (positive : 1 ≤ start)
    (walked : walk size fuel start amount = (index, rest)) :
    before index + rest = before start + amount := by
  induction fuel generalizing start amount with
  | zero =>
      cases walked
      rfl
  | succ fuel ih =>
      rw [walk] at walked
      by_cases inside : amount < size start
      · rw [if_pos inside] at walked
        cases walked
        rfl
      · rw [if_neg inside] at walked
        have later := ih (Nat.le_succ_of_le positive) walked
        rw [next start positive] at later
        omega

end Walk

theorem days_in_year_eq (year : Nat) :
    daysInYear year + (if year % 100 = 0 then 1 else 0) =
      365 + (if year % 4 = 0 then 1 else 0) + (if year % 400 = 0 then 1 else 0) := by
  by_cases century : year % 100 = 0
  · have fourth : year % 4 = 0 := by omega
    by_cases cycle : year % 400 = 0 <;> simp [daysInYear, isLeap, century, fourth, cycle]
  · have notCycle : year % 400 ≠ 0 := by omega
    by_cases fourth : year % 4 = 0 <;> simp [daysInYear, isLeap, century, fourth, notCycle]

theorem days_before_next_year (year : Nat) (positive : 1 ≤ year) :
    daysBeforeYear (year + 1) = daysBeforeYear year + daysInYear year := by
  obtain ⟨past, rfl⟩ : ∃ past, year = past + 1 := ⟨year - 1, by omega⟩
  have size := days_in_year_eq (past + 1)
  have fourths : (past + 1) / 4 = past / 4 + if (past + 1) % 4 = 0 then 1 else 0 := by
    split <;> omega
  have centuries : (past + 1) / 100 = past / 100 + if (past + 1) % 100 = 0 then 1 else 0 := by
    split <;> omega
  have cycles : (past + 1) / 400 = past / 400 + if (past + 1) % 400 = 0 then 1 else 0 := by
    split <;> omega
  simp only [daysBeforeYear, Nat.add_sub_cancel]
  omega

theorem days_before_next_month (year month : Nat) (positive : 1 ≤ month) :
    daysBeforeMonth year (month + 1) = daysBeforeMonth year month + daysInMonth year month := by
  obtain ⟨past, rfl⟩ : ∃ past, month = past + 1 := ⟨month - 1, by omega⟩
  simp [daysBeforeMonth, List.range_succ]

theorem days_in_month_le (year month : Nat) : daysInMonth year month ≤ 31 := by
  unfold daysInMonth
  split <;> split <;> omega

theorem days_before_year_end (year : Nat) : daysBeforeMonth year 13 = daysInYear year := by
  cases leap : isLeap year <;>
    simp [daysBeforeMonth, daysInMonth, daysInYear, List.range_succ, leap]

theorem days_before_cycle (cycles : Nat) : daysBeforeYear (400 * cycles + 1) = 146097 * cycles := by
  simp only [daysBeforeYear]
  omega

theorem of_valid (date : Date) : of? date.year date.month date.day = some date :=
  dif_pos ⟨⟨date.year_pos, date.year_le⟩, ⟨date.month_pos, date.month_le⟩, date.day_pos,
    date.day_le⟩

theorem day_in_year (date : Date) :
    daysBeforeMonth date.year date.month + date.day ≤ daysInYear date.year := by
  have month := before_mono (days_before_next_month date.year)
    (by omega : 1 ≤ date.month + 1) (Nat.succ_le_succ date.month_le)
  rw [days_before_next_month date.year date.month date.month_pos, days_before_year_end] at month
  have day := date.day_le
  omega

theorem of_ordinal (date : Date) : ofOrdinal? date.ordinal = some date := by
  have yearPos := date.year_pos
  have dayPos := date.day_pos
  have inYear := day_in_year date
  have thisYear := days_before_next_year date.year yearPos
  let cycles := (date.year - 1) / 400
  let rest := daysBeforeMonth date.year date.month + date.day - 1
  have cycleStart : 400 * cycles + 1 ≤ date.year := by omega
  have cycleEnd : date.year + 1 ≤ 400 * (cycles + 1) + 1 := by omega
  have fromStart := before_mono days_before_next_year (by omega) cycleStart
  have toEnd := before_mono days_before_next_year (by omega) cycleEnd
  rw [days_before_cycle] at fromStart toEnd
  have position : date.ordinal - 1 = daysBeforeYear date.year + rest := by
    simp only [ordinal, rest]
    omega
  have cycle : (date.ordinal - 1) / 146097 = cycles := by omega
  have year : yearOf 400 (400 * cycles + 1) ((date.ordinal - 1) % 146097) = (date.year, rest) := by
    rw [year_of_eq_walk]
    apply walk_eq days_before_next_year (by omega) cycleStart (by omega) (by omega)
    rw [days_before_cycle]
    omega
  have month : monthOf date.year 12 1 rest = (date.month, date.day - 1) := by
    rw [month_of_eq_walk]
    have monthPos := date.month_pos
    have monthLe := date.month_le
    have dayLe := date.day_le
    apply walk_eq (days_before_next_month date.year) (Nat.le_refl 1) monthPos (by omega) (by omega)
    simp only [rest, daysBeforeMonth]
    simp
    omega
  have notZero : date.ordinal ≠ 0 := by
    simp only [ordinal]
    omega
  simp only [ofOrdinal?, if_neg notZero, cycle, year, month, Nat.sub_add_cancel dayPos, of_valid]

/-- A date that is found from an ordinal is on that day. -/
theorem ordinal_of_found {ordinal : Nat} {date : Date} (found : ofOrdinal? ordinal = some date) :
    date.ordinal = ordinal := by
  unfold ofOrdinal? at found
  dsimp only at found
  rw [Option.ite_none_left_eq_some] at found
  obtain ⟨nonzero, found⟩ := found
  cases byYear : yearOf 400 (400 * ((ordinal - 1) / 146097) + 1) ((ordinal - 1) % 146097) with
  | mk year rest =>
      rw [byYear] at found
      dsimp only at found
      cases byMonth : monthOf year 12 1 rest with
      | mk month left =>
          rw [byMonth] at found
          dsimp only at found
          rw [year_of_eq_walk] at byYear
          rw [month_of_eq_walk] at byMonth
          have years := walk_position days_before_next_year (Nat.le_add_left 1 _) byYear
          have months := walk_position (days_before_next_month year) (Nat.le_refl 1) byMonth
          have start : daysBeforeMonth year 1 = 0 := rfl
          rw [days_before_cycle] at years
          unfold of? at found
          split at found
          · cases found
            simp only [Date.ordinal]
            omega
          · cases found

end Date

theorem Clock.micros_lt (clock : Clock) : clock.micros < microsPerDay := by
  have hour := clock.hour.isLt
  have minute := clock.minute.isLt
  have second := clock.second.isLt
  have micro := clock.micro.isLt
  simp only [Clock.micros, microsPerDay, microsPerSecond]
  omega

theorem Clock.of_micros (clock : Clock) : Clock.ofMicros clock.micros = clock := by
  have hour := clock.hour.isLt
  have minute := clock.minute.isLt
  have second := clock.second.isLt
  have micro := clock.micro.isLt
  have micros : clock.micros = ((clock.hour.val * 60 + clock.minute.val) * 60 + clock.second.val)
      * 1000000 + clock.micro.val := rfl
  have parts : Fin.ofNat 24 (clock.micros / 3600000000) = clock.hour ∧
      Fin.ofNat 60 (clock.micros / 60000000) = clock.minute ∧
      Fin.ofNat 60 (clock.micros / 1000000) = clock.second ∧
      Fin.ofNat 1000000 clock.micros = clock.micro := by
    refine ⟨Fin.ext ?_, Fin.ext ?_, Fin.ext ?_, Fin.ext ?_⟩ <;> simp only [Fin.val_ofNat] <;> omega
  rw [Clock.ofMicros, parts.1, parts.2.1, parts.2.2.1, parts.2.2.2]

theorem Clock.micros_of {n : Nat} (below : n < microsPerDay) : (Clock.ofMicros n).micros = n := by
  simp only [Clock.micros, Clock.ofMicros, Fin.val_ofNat]
  simp only [microsPerDay, microsPerSecond] at below
  omega

namespace Stamp

theorem of_micros (stamp : Stamp) : ofMicros? stamp.micros = some stamp := by
  have below := stamp.clock.micros_lt
  have perDay : 0 < microsPerDay := by decide
  have days : stamp.micros / microsPerDay = stamp.date.ordinal := by
    rw [micros, Nat.mul_comm, Nat.mul_add_div perDay, Nat.div_eq_of_lt below, Nat.add_zero]
  have rest : stamp.micros % microsPerDay = stamp.clock.micros := by
    rw [micros, Nat.mul_comm, Nat.mul_add_mod, Nat.mod_eq_of_lt below]
  have notBefore : ¬(stamp.micros : Int) < 0 := by omega
  simp [ofMicros?, days, rest, Date.of_ordinal, Clock.of_micros]

/-- Two stamps at one instant are the same. -/
theorem micros_injective {left right : Stamp} (same : left.micros = right.micros) : left = right := by
  have found := of_micros left
  rw [same, of_micros right] at found
  exact (Option.some.inj found).symm

/-- A stamp that is found from an instant is at that instant. -/
theorem micros_of_found {n : Int} {stamp : Stamp} (found : ofMicros? n = some stamp) :
    (stamp.micros : Int) = n := by
  rw [ofMicros?, Option.ite_none_left_eq_some] at found
  obtain ⟨notBefore, found⟩ := found
  obtain ⟨date, day, rfl⟩ := Option.map_eq_some_iff.mp found
  have perDay : 0 < microsPerDay := by decide
  have parts := Nat.div_add_mod n.toNat microsPerDay
  rw [Nat.mul_comm] at parts
  simp only [micros, Date.ordinal_of_found day, Clock.micros_of (Nat.mod_lt _ perDay), parts]
  omega

end Stamp

/-- Universal time of a moment with an offset is the stamp that is at its instant. -/
theorem Moment.utc_stamp {stamp utc : Stamp} {offset : Offset}
    (shifted : (utc.micros : Int) = stamp.micros - offset) :
    Moment.utcStamp? ⟨stamp, some offset⟩ = some utc := by
  simp only [Moment.utcStamp?]
  split
  · rename_i zero
    subst zero
    have same : utc = stamp := Stamp.micros_injective (by omega)
    rw [same]
  · rw [Stamp.shift?, ← Int.sub_eq_add_neg, ← shifted, Stamp.of_micros]

/-- The instant of a moment in microseconds since the start of day 0 in universal time, for which a
naive moment is taken. -/
def Moment.instant (moment : Moment) : Int :=
  moment.stamp.micros - moment.offset?.getD 0

/-- Universal time of a moment is the stamp at its instant. -/
theorem Moment.utc_stamp_iff {moment : Moment} {utc : Stamp} :
    moment.utcStamp? = some utc ↔ (utc.micros : Int) = moment.instant := by
  obtain ⟨stamp, offset?⟩ := moment
  cases offset? with
  | none =>
      simp only [utcStamp?, instant, Option.getD_none, Int.sub_zero, Option.some.injEq]
      constructor
      · rintro rfl
        rfl
      · intro same
        exact (Stamp.micros_injective (Int.ofNat.inj same)).symm
  | some offset =>
      refine ⟨fun found => ?_, utc_stamp⟩
      simp only [instant, Option.getD_some]
      simp only [utcStamp?] at found
      by_cases zero : offset = 0
      · rw [if_pos zero] at found
        cases found
        rw [zero, Int.sub_zero]
      · rw [if_neg zero] at found
        exact Stamp.micros_of_found found

/-- Universal time is what a naive moment is in. -/
@[simp] theorem Moment.utc_stamp_or_utc (moment : Moment) :
    moment.orUtc.utcStamp? = moment.utcStamp? := by
  obtain ⟨stamp, offset?⟩ := moment
  cases offset? with
  | some offset => rfl
  | none => rfl

/-- Taking a naive moment as universal time does not change what is stored. -/
theorem Moment.offset_text (moment : Moment) : moment.offsetText? = moment.text? := by
  rw [offsetText?, text?, utc_stamp_or_utc, text?]

/-- A moment whose instant is that of no stamp. -/
def Moment.LeavesCalendar (moment : Moment) : Prop :=
  ∃ offset, moment.offset? = some offset ∧
    ∀ utc : Stamp, (utc.micros : Int) ≠ moment.stamp.micros - offset

theorem Moment.utc_stamp_none_iff {moment : Moment} :
    moment.utcStamp? = none ↔ moment.LeavesCalendar := by
  have lost : moment.utcStamp? = none ↔ ∀ utc : Stamp, (utc.micros : Int) ≠ moment.instant := by
    simp only [Option.eq_none_iff_forall_ne_some, ne_eq, utc_stamp_iff]
  obtain ⟨stamp, offset?⟩ := moment
  cases offset? with
  | none => exact iff_of_false nofun nofun
  | some offset => simpa [LeavesCalendar, instant] using lost

end Time
end SqlPipeline
