import SqlPipeline.Proofs.Text.Decimal
import SqlPipeline.Proofs.Text.Cut
import SqlPipeline.Proofs.Time.Calendar
import SqlPipeline.Time.Span
import SqlPipeline.Value.Display

/-!
The text of a span reads back as the span, and the text of a time of day as the span since midnight.
Both texts are hours, minutes and seconds with ticks behind them unless there are none; they differ
in the number of digits that ticks have, and in the sign and the days that only a span shows. A text of
more days than any span has is out of range.
-/

namespace SqlPipeline
namespace Time

theorem Clock.micros_in_span (clock : Clock) :
    -(86399999913600000000 : Int) ≤ (clock.micros : Int) ∧
      (clock.micros : Int) < 86400000000000000000 := by
  have below := clock.micros_lt
  simp only [microsPerDay, microsPerSecond] at below
  omega

namespace Span

def ticksText (ticks : Text) : Text :=
  if ticks = [] then [] else '.' :: ticks

def timeText (hours minutes seconds : Nat) (ticks : Text) : Text :=
  Text.padded 2 hours ++ ':' :: (Text.padded 2 minutes ++
    ':' :: (Text.padded 2 seconds ++ ticksText ticks))

/-- The days of a text, nothing when there are none. -/
def dayDigits (days : Nat) : Text :=
  if days = 0 then [] else Text.decimal days

/-- The ticks of a text, nothing when there are none. -/
def tickDigits (width ticks : Nat) : Text :=
  if ticks = 0 then [] else Text.padded width ticks

def signText (negative : Bool) : Text :=
  if negative then ['-'] else []

def daysText (days : Text) : Text :=
  if days = [] then [] else days ++ ['.']

theorem text_eq (span : Span) :
    span.text = signText (decide (span.micros < 0)) ++
      (daysText (dayDigits (span.micros.natAbs / 86400000000)) ++
        timeText (span.micros.natAbs / 3600000000 % 24) (span.micros.natAbs / 60000000 % 60)
          (span.micros.natAbs / 1000000 % 60)
          (tickDigits 7 (span.micros.natAbs % 1000000 * 10))) := by
  have sign : (if span.micros < 0 then ['-'] else []) = signText (decide (span.micros < 0)) := by
    by_cases negative : span.micros < 0 <;> simp [signText, negative]
  have days : (if span.micros.natAbs / 86400000000 = 0 then []
      else Text.decimal (span.micros.natAbs / 86400000000) ++ ['.']) =
        daysText (dayDigits (span.micros.natAbs / 86400000000)) := by
    by_cases none : span.micros.natAbs / 86400000000 = 0 <;>
      simp [daysText, dayDigits, none, Text.decimal_ne_nil]
  have ticks : fractionText (span.micros.natAbs % 1000000) =
      ticksText (tickDigits 7 (span.micros.natAbs % 1000000 * 10)) := by
    by_cases none : span.micros.natAbs % 1000000 = 0
    · rw [none]
      rfl
    · have some : span.micros.natAbs % 1000000 * 10 ≠ 0 := by omega
      rw [fractionText, if_neg none, tickDigits, if_neg some, ticksText,
        if_neg (Text.padded_ne_nil 7 _)]
  simp only [text, magnitudeText, sign, days, ticks, timeText, List.append_assoc, List.cons_append]

theorem clock_text_eq (clock : Clock) :
    clockText clock none =
      timeText clock.hour clock.minute clock.second (tickDigits 6 clock.micro) := by
  have ticks : Clock.fractionText clock.micro = ticksText (tickDigits 6 clock.micro) := by
    by_cases none : clock.micro.val = 0 <;>
      simp [Clock.fractionText, ticksText, tickDigits, none, Text.padded_ne_nil]
  simp only [clockText, zoneText, Clock.text, ticks, timeText, List.append_assoc, List.cons_append,
    List.append_nil]

theorem digit_run_eq {run : Text} (digits : Text.AllDigits run) (rest : Text)
    (stop : ∀ c ∈ rest.head?, Text.isDigit c = false) : digitRun (run ++ rest) = (run, rest) := by
  have all : ∀ c ∈ run, Text.isDigit c = true :=
    fun c member => Text.digit_is_digit (digits c member)
  rw [digitRun, Text.take_while_run rest all stop, Text.drop_while_run rest all stop]

theorem sixtieth_padded {n : Nat} (below : n < 100) (rest : Text) :
    sixtieth? (':' :: (Text.padded 2 n ++ rest)) = some (Text.padded 2 n, rest) := by
  have size : (Text.padded 2 n).length = 2 := Text.length_padded (by decide) below
  have all : (Text.padded 2 n).all Text.isDigit = true :=
    List.all_eq_true.mpr fun c member => Text.digit_is_digit (Text.padded_digits 2 n c member)
  have taken : (Text.padded 2 n ++ rest).take 2 = Text.padded 2 n := List.take_left' size
  have dropped : (Text.padded 2 n ++ rest).drop 2 = rest := List.drop_left' size
  simp only [sixtieth?, taken, dropped, all, size, and_self, if_true]

theorem ticks_text {ticks : Text} (digits : Text.AllDigits ticks) (short : ticks.length ≤ 7) :
    ticks? (ticksText ticks) = some ticks := by
  by_cases empty : ticks = []
  · subst empty
    rfl
  · have all : ticks.all Text.isDigit = true :=
      List.all_eq_true.mpr fun c member => Text.digit_is_digit (digits c member)
    have positive : 1 ≤ ticks.length := List.length_pos_iff.mpr empty
    simp only [ticksText, if_neg empty, ticks?, all, positive, short, and_self, if_true]

theorem clock_time {hours minutes seconds : Nat} {ticks : Text} (hoursLt : hours < 100)
    (minutesLt : minutes < 100) (secondsLt : seconds < 100) (digits : Text.AllDigits ticks)
    (short : ticks.length ≤ 7) (negative : Bool) (days : Text) :
    clock? negative days (timeText hours minutes seconds ticks) =
      some ⟨negative, days, Text.padded 2 hours, Text.padded 2 minutes, Text.padded 2 seconds,
        ticks⟩ := by
  have size : (Text.padded 2 hours).length = 2 := Text.length_padded (by decide) hoursLt
  have colon : Text.isDigit ':' = false := by decide
  have run := digit_run_eq (Text.padded_digits 2 hours)
    (':' :: (Text.padded 2 minutes ++ ':' :: (Text.padded 2 seconds ++ ticksText ticks)))
    (by simp [colon])
  simp only [clock?, timeText, run, size, if_neg (by decide : ¬(2 = 0 ∨ 2 < 2)),
    sixtieth_padded minutesLt, sixtieth_padded secondsLt, ticks_text digits short,
    Option.bind_eq_bind, Option.bind_some]

/-- What is read behind the sign. -/
def unsigned? (negative : Bool) (s : Text) : Option Fields :=
  match digitRun s with
  | (d :: days, '.' :: rest) => clock? negative (d :: days) rest
  | _ => clock? negative [] s

theorem fields_signed (negative : Bool) {s : Text}
    (head : ∀ c ∈ s.head?, Text.isAsciiDigit c = true) :
    fields? (signText negative ++ s) = unsigned? negative s := by
  cases negative with
  | true => rfl
  | false =>
      cases s with
      | nil => rfl
      | cons c rest =>
          have notMinus : c ≠ '-' := by
            rintro rfl
            exact absurd (head '-' rfl) (by decide)
          simp only [signText, Bool.false_eq_true, if_false, List.nil_append, fields?,
            List.cons.injEq, notMinus, false_and, imp_self, implies_true]
          rfl

theorem unsigned_days {days rest : Text} (digits : Text.AllDigits days) (notNil : days ≠ [])
    (negative : Bool) : unsigned? negative (days ++ '.' :: rest) = clock? negative days rest := by
  have point : Text.isDigit '.' = false := by decide
  cases days with
  | nil => exact absurd rfl notNil
  | cons d days =>
      rw [unsigned?, digit_run_eq digits _ (by simp [point])]
      rfl

theorem unsigned_time {hours rest : Text} (digits : Text.AllDigits hours) (negative : Bool) :
    unsigned? negative (hours ++ ':' :: rest) = clock? negative [] (hours ++ ':' :: rest) := by
  have colon : Text.isDigit ':' = false := by decide
  rw [unsigned?, digit_run_eq digits _ (by simp [colon])]
  cases hours with
  | nil => rfl
  | cons d hours => rfl

/-- The fields of a text are read as they stand there. -/
theorem fields_time {hours minutes seconds : Nat} {days ticks : Text} (hoursLt : hours < 100)
    (minutesLt : minutes < 100) (secondsLt : seconds < 100) (dayDigits : Text.AllDigits days)
    (digits : Text.AllDigits ticks) (short : ticks.length ≤ 7) (negative : Bool) :
    fields? (signText negative ++ (daysText days ++ timeText hours minutes seconds ticks)) =
      some ⟨negative, days, Text.padded 2 hours, Text.padded 2 minutes, Text.padded 2 seconds,
        ticks⟩ := by
  have time := clock_time hoursLt minutesLt secondsLt digits short negative
  cases days with
  | nil =>
      have hourDigits := Text.padded_digits 2 hours
      have head := Text.digits_head hourDigits (Text.padded_ne_nil 2 hours)
        (':' :: (Text.padded 2 minutes ++ ':' :: (Text.padded 2 seconds ++ ticksText ticks)))
      rw [daysText, if_pos rfl, List.nil_append, timeText, fields_signed negative head,
        unsigned_time hourDigits]
      exact time []
  | cons d days =>
      have notNil : d :: days ≠ [] := List.cons_ne_nil d days
      rw [daysText, if_neg notNil, List.append_assoc, List.singleton_append,
        fields_signed negative (Text.digits_head dayDigits notNil _), unsigned_days dayDigits notNil]
      exact time (d :: days)

theorem value_of_digits {digits : Text} {n : Nat} (worth : Text.digits? digits = some n) :
    value digits = n := by
  rw [value, worth, Option.getD_some]

theorem day_digits_all (days : Nat) : Text.AllDigits (dayDigits days) := by
  by_cases none : days = 0
  · simp [dayDigits, none, Text.AllDigits]
  · simpa only [dayDigits, if_neg none] using Text.decimal_digits days

theorem day_digits_value (days : Nat) : value (dayDigits days) = days := by
  by_cases none : days = 0
  · rw [dayDigits, if_pos none, none]
    rfl
  · rw [dayDigits, if_neg none, value_of_digits (Text.digits_decimal days)]

theorem length_day_digits {days : Nat} (days_le : days ≤ greatestDays) :
    (dayDigits days).length ≤ 9 := by
  by_cases none : days = 0
  · simp [dayDigits, none]
  · have below : days < 10 ^ 9 := Nat.lt_succ_of_le days_le
    rw [dayDigits, if_neg none]
    exact (Text.length_decimal_le (by decide)).mpr below

theorem tick_digits_all (width ticks : Nat) : Text.AllDigits (tickDigits width ticks) := by
  by_cases none : ticks = 0
  · simp [tickDigits, none, Text.AllDigits]
  · simpa only [tickDigits, if_neg none] using Text.padded_digits width ticks

theorem tick_digits_value {width ticks : Nat} (positive : 0 < width) (below : ticks < 10 ^ width) :
    value (List.rightpad 7 '0' (tickDigits width ticks)) = 10 ^ (7 - width) * ticks := by
  by_cases none : ticks = 0
  · rw [tickDigits, if_pos none, none, Nat.mul_zero]
    decide
  · rw [tickDigits, if_neg none]
    have worth := Text.digits_pad_right (Text.padded_digits width ticks)
      (Text.digits_padded width ticks) 7
    rw [value_of_digits worth, Text.length_padded positive below]

theorem length_tick_digits {width ticks : Nat} (positive : 0 < width) (below : ticks < 10 ^ width) :
    (tickDigits width ticks).length ≤ width := by
  by_cases none : ticks = 0
  · simp [tickDigits, none]
  · rw [tickDigits, if_neg none, Text.length_padded positive below]

theorem days_text_solid {days : Text} (digits : Text.AllDigits days) :
    ∀ c ∈ daysText days, Text.isBlank c = false := by
  intro c member
  by_cases empty : days = []
  · simp [daysText, empty] at member
  · simp only [daysText, if_neg empty, List.mem_append, List.mem_singleton] at member
    rcases member with member | rfl
    · exact Text.digit_not_blank (digits c member)
    · decide

theorem ticks_text_solid {ticks : Text} (digits : Text.AllDigits ticks) :
    ∀ c ∈ ticksText ticks, Text.isBlank c = false := by
  intro c member
  by_cases empty : ticks = []
  · simp [ticksText, empty] at member
  · simp only [ticksText, if_neg empty, List.mem_cons] at member
    rcases member with rfl | member
    · decide
    · exact Text.digit_not_blank (digits c member)

theorem trim_time {days ticks : Text} (dayDigits : Text.AllDigits days)
    (digits : Text.AllDigits ticks) (negative : Bool) (hours minutes seconds : Nat) :
    Text.trim (signText negative ++ (daysText days ++ timeText hours minutes seconds ticks)) =
      signText negative ++ (daysText days ++ timeText hours minutes seconds ticks) := by
  have sign : ∀ c ∈ signText negative, Text.isBlank c = false := by
    have minus : Text.isBlank '-' = false := by decide
    cases negative <;> simp [signText, minus]
  have colon : Text.isBlank ':' = false := by decide
  apply Text.strip_of_all
  intro c member
  simp only [timeText, List.mem_append, List.mem_cons] at member
  rcases member with member | member | member | rfl | member | rfl | member | member
  · exact sign c member
  · exact days_text_solid dayDigits c member
  · exact Text.digit_not_blank (Text.padded_digits 2 hours c member)
  · exact colon
  · exact Text.digit_not_blank (Text.padded_digits 2 minutes c member)
  · exact colon
  · exact Text.digit_not_blank (Text.padded_digits 2 seconds c member)
  · exact ticks_text_solid digits c member

theorem of_micros (span : Span) : ofMicros? span.micros = some span :=
  dif_pos ⟨span.least_le, span.lt_limit⟩

theorem micros_injective {left right : Span} (same : left.micros = right.micros) : left = right := by
  cases left
  cases right
  cases same
  rfl

theorem micros_of_found {micros : Int} {span : Span} (found : ofMicros? micros = some span) :
    span.micros = micros := by
  unfold ofMicros? at found
  split at found
  · cases found
    rfl
  · cases found

theorem of_micros_none_iff {micros : Int} :
    ofMicros? micros = none ↔ ∀ span : Span, span.micros ≠ micros := by
  constructor
  · rintro lost span rfl
    rw [of_micros] at lost
    cases lost
  · intro never
    apply Option.eq_none_iff_forall_ne_some.mpr
    exact fun span found => never span (micros_of_found found)

/-- The least span is nearer to zero than what is beyond the greatest one. -/
theorem of_micros_neg_none {micros : Nat} (lost : ofMicros? micros = none) :
    ofMicros? (-micros) = none := by
  rw [of_micros_none_iff] at lost ⊢
  intro span same
  have least := span.least_le
  exact lost ⟨micros, by omega, by omega⟩ rfl

/-- A text of a span within the bounds is read as that span. -/
theorem read_time {hours minutes seconds : Nat} {days ticks : Text} {span : Span}
    (hoursLt : hours < 100) (minutesLt : minutes < 100) (secondsLt : seconds < 100)
    (dayDigits : Text.AllDigits days) (dayCount : days.length ≤ 9)
    (digits : Text.AllDigits ticks) (short : ticks.length ≤ 7)
    (worth : (((value days * 24 + hours) * 60 + minutes) * 60 + seconds) * 1000000 +
      value (List.rightpad 7 '0' ticks) / 10 = span.micros.natAbs) :
    Span.read (signText (decide (span.micros < 0)) ++
      (daysText days ++ timeText hours minutes seconds ticks)) = .ok span := by
  have lower := span.least_le
  have upper := span.lt_limit
  have readable : ¬Numeral.longest < days.length := by
    simp only [Numeral.longest]
    omega
  have fields := fields_time hoursLt minutesLt secondsLt dayDigits digits short
    (decide (span.micros < 0))
  have micros : Fields.micros ⟨decide (span.micros < 0), days, Text.padded 2 hours,
      Text.padded 2 minutes, Text.padded 2 seconds, ticks⟩ = span.micros.natAbs := by
    simp only [Fields.micros, value_of_digits (Text.digits_padded 2 _), worth]
  let magnitude : Span := ⟨span.micros.natAbs, by omega, by omega⟩
  have found : ofMicros? (span.micros.natAbs : Int) = some magnitude := of_micros magnitude
  rw [Span.read, trim_time dayDigits digits, fields]
  simp only [if_neg readable, micros, found]
  by_cases negative : span.micros < 0
  · have opposite : -magnitude.micros = span.micros := by
      simp only [magnitude]
      omega
    simp only [negative, decide_true, if_true, opposite, of_micros]
  · have same : magnitude = span := by
      apply micros_injective
      simp only [magnitude]
      omega
    simp only [negative, decide_false, Bool.false_eq_true, if_false, same]

theorem read_text (span : Span) : Span.read span.text = .ok span := by
  have lower := span.least_le
  have upper := span.lt_limit
  have days : span.micros.natAbs / 86400000000 ≤ greatestDays := by
    simp only [greatestDays]
    omega
  have ticks : span.micros.natAbs % 1000000 * 10 < 10 ^ 7 := by omega
  rw [text_eq]
  apply read_time (by omega) (by omega) (by omega) (day_digits_all _) (length_day_digits days)
    (tick_digits_all 7 _) (length_tick_digits (by decide) ticks)
  rw [day_digits_value, tick_digits_value (by decide) ticks]
  omega

/-- The text of a time of day is read as the span since midnight. -/
theorem read_clock_text {clock : Clock} {span : Span} (since : span.micros = clock.micros) :
    Span.read (clockText clock none) = .ok span := by
  have hour := clock.hour.isLt
  have minute := clock.minute.isLt
  have second := clock.second.isLt
  have micro : clock.micro.val < 10 ^ 6 := clock.micro.isLt
  have plain : decide (span.micros < 0) = false := decide_eq_false (by omega)
  have worth : (((value (dayDigits 0) * 24 + clock.hour) * 60 + clock.minute) * 60 + clock.second) *
      1000000 + value (List.rightpad 7 '0' (tickDigits 6 clock.micro)) / 10 =
        span.micros.natAbs := by
    rw [day_digits_value, tick_digits_value (by decide) micro, since]
    simp only [Clock.micros]
    omega
  have read := read_time (by omega : clock.hour.val < 100) (by omega : clock.minute.val < 100)
    (by omega : clock.second.val < 100) (day_digits_all 0) (length_day_digits (by decide))
    (tick_digits_all 6 clock.micro) (Nat.le_succ_of_le (length_tick_digits (by decide) micro)) worth
  rw [plain] at read
  rw [clock_text_eq]
  exact read

theorem text_eq_iff {first second : Span} : first.text = second.text ↔ first = second := by
  constructor
  · intro same
    have read := first.read_text
    rw [same, second.read_text] at read
    exact (Except.ok.inj read).symm
  · rintro rfl
    rfl

/-- Every span reads back from its text, so that no two of them share one; the texts of spans are
those that are the text of what they read as; and the text of a time of day reads as the span since
midnight. -/
theorem texts_read_back :
    (∀ span : Span, Span.read span.text = .ok span) ∧
      (∀ first second : Span, first.text = second.text ↔ first = second) ∧
      (∀ s : Text, (∃ span : Span, span.text = s) ↔
        ∃ span, Span.read s = .ok span ∧ span.text = s) ∧
      ∀ clock : Clock, ∃ span : Span, ofClock clock = some span ∧ span.micros = clock.micros ∧
        Span.read (clockText clock none) = .ok span := by
  refine ⟨read_text, fun _ _ => text_eq_iff, fun s => ⟨?_, ?_⟩, fun clock => ?_⟩
  · rintro ⟨span, rfl⟩
    exact ⟨span, span.read_text, rfl⟩
  · rintro ⟨span, _, written⟩
    exact ⟨span, written⟩
  · obtain ⟨least, limit⟩ := clock.micros_in_span
    let span : Span := ⟨clock.micros, least, limit⟩
    have since : span.micros = clock.micros := rfl
    exact ⟨span, span.of_micros, since, read_clock_text since⟩

/-- The least span and the last microsecond of the greatest one have texts at the bounds. -/
example :
    (Span.mk (-86399999913600000000) (by decide) (by decide)).text = "-999999999.00:00:00".toList ∧
      (Span.mk 86399999999999999999 (by decide) (by decide)).text =
        "999999999.23:59:59.9999990".toList := by
  decide

/-- Fields of a text whose span, with its sign, is no span. -/
def Fields.IsBeyond (fields : Fields) : Prop :=
  ∀ span : Span, span.micros ≠ Numeral.signed fields.negative fields.micros

/-- A text of fields that are not too long is out of range when they are beyond every span. -/
theorem read_fields {s : Text} {fields : Fields} (found : fields? (Text.trim s) = some fields)
    (short : fields.days.length ≤ Numeral.longest) :
    read s = .error .outOfRange ↔ fields.IsBeyond := by
  rw [Fields.IsBeyond, ← of_micros_none_iff]
  simp only [read, found, if_neg (Nat.not_lt.mpr short)]
  cases whole : ofMicros? fields.micros with
  | none =>
      cases negative : fields.negative with
      | true => simp [Numeral.signed, of_micros_neg_none whole]
      | false => simp [Numeral.signed, whole]
  | some span =>
      simp only [micros_of_found whole]
      cases negative : fields.negative with
      | true => cases lost : ofMicros? (-fields.micros) <;> simp [Numeral.signed, lost]
      | false => simp [Numeral.signed, whole]

end Span
end Time
end SqlPipeline
