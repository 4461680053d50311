import Mathlib.Data.List.Find
import SqlPipeline.Proofs.Text.Decimal
import SqlPipeline.Proofs.Text.Cut
import SqlPipeline.Proofs.Time.Calendar
import SqlPipeline.Time.Reading

/-!
The stored text of a stamp reads back as the stamp cut off to milliseconds, both as a naive stamp
and as a moment in universal time. Naive reading takes the first of the stored layouts; moments are
read in the ISO form, which the stored text has too.
-/

namespace SqlPipeline
namespace Time

/-- The time of day with what is finer than a millisecond cut off. -/
def Clock.toMillis (clock : Clock) : Clock :=
  { clock with micro := ⟨clock.micro / 1000 * 1000, by have := clock.micro.isLt; omega⟩ }

def Stamp.toMillis (stamp : Stamp) : Stamp :=
  ⟨stamp.date, stamp.clock.toMillis⟩

theorem Stamp.to_millis_micros (stamp : Stamp) :
    stamp.toMillis.micros = stamp.micros / 1000 * 1000 := by
  simp only [Stamp.micros, Stamp.toMillis, Clock.toMillis, Clock.micros, microsPerDay,
    microsPerSecond]
  omega

theorem Stamp.to_millis_midnight (date : Date) : (atMidnight date).toMillis = atMidnight date := by
  have midnight : Clock.midnight.toMillis = Clock.midnight := by decide
  rw [atMidnight, toMillis, midnight]

theorem Date.length_text (date : Date) : date.text.length = 10 := by
  have yearLe := date.year_le
  have monthLe := date.month_le
  have dayLe : date.day ≤ 31 := Nat.le_trans date.day_le (days_in_month_le _ _)
  have year : (Text.padded 4 date.year).length = 4 := Text.length_padded (by decide) (by omega)
  have month : (Text.padded 2 date.month).length = 2 := Text.length_padded (by decide) (by omega)
  have day : (Text.padded 2 date.day).length = 2 := Text.length_padded (by decide) (by omega)
  simp only [text, List.length_append, List.length_cons, year, month, day]

/-- A time of day as it stands in the stored text of a stamp. -/
def Clock.storedText (clock : Clock) : Text :=
  Text.padded 2 clock.hour ++ ':' :: Text.padded 2 clock.minute ++ ':' ::
    Text.padded 2 clock.second ++ '.' :: Text.padded 3 (clock.micro / 1000)

theorem Stamp.text_eq (stamp : Stamp) :
    stamp.text = stamp.date.text ++ ' ' :: stamp.clock.storedText := by
  simp only [Stamp.text, Clock.storedText, List.append_assoc, List.cons_append]

theorem Clock.stored_head (clock : Clock) :
    ∀ c ∈ clock.storedText.head?, Text.isAsciiDigit c = true := by
  simp only [Clock.storedText, List.append_assoc]
  exact Text.digits_head (Text.padded_digits 2 _) (Text.padded_ne_nil 2 _) _

namespace Layout

theorem fits_append {shape : List (Char -> Bool)} {s : Text} (short : shape.length ≤ s.length)
    (rest : Text) : fits shape (s ++ rest) = fits shape s := by
  induction shape generalizing s with
  | nil => simp [fits]
  | cons test tests ih =>
      cases s with
      | nil => simp at short
      | cons c s => simp only [List.cons_append, fits, ih (Nat.le_of_succ_le_succ short)]

/-- What follows a text that is as long as every shape of a field is left alone. -/
theorem field_append {item : Item} {s : Text} {n : Nat}
    (short : ∀ shape ∈ shapes item, shape.length ≤ s.length)
    (found : field? item s = some (n, [])) (rest : Text) :
    field? item (s ++ rest) = some (n, rest) := by
  have same : (shapes item).find? (fun shape => fits shape (s ++ rest)) =
      (shapes item).find? fun shape => fits shape s :=
    List.find?_congr fun shape member => fits_append (short shape member) rest
  unfold field? at found ⊢
  rw [same]
  cases chosen : (shapes item).find? fun shape => fits shape s with
  | none => simp [chosen] at found
  | some shape =>
      have size := short shape (List.mem_of_find?_eq_some chosen)
      simp only [chosen, Option.some.injEq, Prod.mk.injEq, List.drop_eq_nil_iff] at found
      simp only [List.take_append_of_le_length size, List.drop_append_of_le_length size, found.1,
        List.drop_eq_nil_of_le found.2, List.nil_append]

theorem number_of_digits {digits : Text} {n : Nat} (all : Text.AllDigits digits)
    (worth : Text.digits? digits = some n) : number digits = n := by
  have kept : Text.trimStart digits = digits :=
    Text.trim_start_of_head fun c member =>
      Text.digit_not_blank (all c (List.mem_of_mem_head? member))
  rw [number, kept, worth, Option.getD_some]

theorem field_month {month : Nat} (pos : 1 ≤ month) (le : month ≤ 12) :
    field? .month (Text.padded 2 month) = some (month, []) :=
  (by decide : ∀ n : Fin 13, 1 ≤ n.val -> field? .month (Text.padded 2 n) = some (n.val, []))
    ⟨month, by omega⟩ pos

theorem field_day {day : Nat} (pos : 1 ≤ day) (le : day ≤ 31) :
    field? .day (Text.padded 2 day) = some (day, []) :=
  (by decide : ∀ n : Fin 32, 1 ≤ n.val -> field? .day (Text.padded 2 n) = some (n.val, []))
    ⟨day, by omega⟩ pos

theorem field_hour (hour : Fin 24) : field? .hour (Text.padded 2 hour) = some (hour.val, []) :=
  (by decide : ∀ n : Fin 24, field? .hour (Text.padded 2 n) = some (n.val, [])) hour

theorem field_minute (minute : Fin 60) :
    field? .minute (Text.padded 2 minute) = some (minute.val, []) :=
  (by decide : ∀ n : Fin 60, field? .minute (Text.padded 2 n) = some (n.val, [])) minute

theorem field_second (second : Fin 60) :
    field? .second (Text.padded 2 second) = some (second.val, []) :=
  (by decide : ∀ n : Fin 60, field? .second (Text.padded 2 n) = some (n.val, [])) second

theorem field_year {year : Nat} (le : year ≤ 9999) :
    field? .year (Text.padded 4 year) = some (year, []) := by
  have size : (Text.padded 4 year).length = 4 := Text.length_padded (by decide) (by omega)
  have digits := Text.padded_digits 4 year
  have worth := number_of_digits digits (Text.digits_padded 4 year)
  obtain ⟨a, b, c, d, same⟩ : ∃ a b c d, Text.padded 4 year = [a, b, c, d] := by
    match found : Text.padded 4 year, size with
    | [a, b, c, d], _ => exact ⟨a, b, c, d, rfl⟩
  rw [same] at digits worth ⊢
  have isDigit : ∀ x ∈ [a, b, c, d], Text.isDigit x = true :=
    fun x member => Text.digit_is_digit (digits x member)
  simp only [List.forall_mem_cons] at isDigit
  simp [field?, shapes, fits, isDigit, worth]

/-- Three digits that end a text are milliseconds. -/
theorem fraction_millis {millis : Nat} (below : millis < 1000) :
    fraction? (Text.padded 3 millis) = some (1000 * millis, []) := by
  have size : (Text.padded 3 millis).length = 3 := Text.length_padded (by decide) below
  have digits := Text.padded_digits 3 millis
  have scaled : Text.digits? (List.rightpad 6 '0' (Text.padded 3 millis)) = some (1000 * millis) := by
    have thousand : 10 ^ (6 - 3) = 1000 := by decide
    rw [Text.digits_pad_right digits (Text.digits_padded 3 millis), size, thousand]
  have all : Text.AllDigits (List.rightpad 6 '0' (Text.padded 3 millis)) :=
    Text.all_digits_append.mpr ⟨digits, Text.all_digits_replicate_zero _⟩
  have run : ((Text.padded 3 millis).take 6).takeWhile Text.isAsciiDigit = Text.padded 3 millis := by
    rw [List.take_of_length_le (by omega)]
    exact List.takeWhile_eq_self_iff.mpr digits
  have filled : (Text.padded 3 millis).isEmpty = false :=
    List.isEmpty_eq_false_iff.mpr (Text.padded_ne_nil 3 millis)
  simp only [fraction?, run, filled, Bool.false_eq_true, if_false, number_of_digits all scaled,
    List.drop_length]

theorem read_item_step {item : Item} {fields next : Fields} {s rest : Text}
    (step : readItem? fields s item = some (next, rest)) (items : List Item) :
    read? (item :: items) fields s = read? items next rest := by
  simp only [read?, step, Option.bind_eq_bind, Option.bind_some]

theorem read_mark_step {c : Char} (upper : c.toUpper = c) (fields : Fields) (items : List Item)
    (rest : Text) : read? (.mark c :: items) fields (c :: rest) = read? items fields rest :=
  read_item_step (by simp [readItem?, upper]) items

theorem read_blank_step {fields : Fields} {rest : Text}
    (head : ∀ c ∈ rest.head?, Text.isBlank c = false) (items : List Item) :
    read? (.blanks :: items) fields (' ' :: rest) = read? items fields rest := by
  have blank : Text.isBlank ' ' = true := by decide
  refine read_item_step ?_ items
  simp only [readItem?, Text.afterBlanks?, blank, if_true, Text.trim_start_of_head head,
    Option.map_some]

/-- The date of a stored text, from any fields on. -/
theorem read_date (day : Date) (fields : Fields) (items : List Item) (rest : Text) :
    read? (date ++ items) fields (day.text ++ rest) =
      read? items { fields with year := day.year, month := day.month, day := day.day } rest := by
  have monthLe := day.month_le
  have dayLe : day.day ≤ 31 := Nat.le_trans day.day_le (Date.days_in_month_le day.year day.month)
  have yearLe := day.year_le
  have yearSize : (Text.padded 4 day.year).length = 4 := Text.length_padded (by decide) (by omega)
  have monthSize : (Text.padded 2 day.month).length = 2 := Text.length_padded (by decide) (by omega)
  have daySize : (Text.padded 2 day.day).length = 2 := Text.length_padded (by decide) (by omega)
  have year := field_append (by simp [shapes, yearSize]) (field_year yearLe)
  have month := field_append (by simp [shapes, monthSize]) (field_month day.month_pos monthLe)
  have day := field_append (by simp [shapes, daySize]) (field_day day.day_pos dayLe)
  simp only [date, Date.text, List.cons_append, List.nil_append, List.append_assoc]
  rw [read_item_step (by rw [readItem?, year, Option.map_some])]
  rw [read_mark_step (by decide)]
  rw [read_item_step (by rw [readItem?, month, Option.map_some])]
  rw [read_mark_step (by decide)]
  rw [read_item_step (by rw [readItem?, day, Option.map_some])]

/-- The time of day of a stored text, from any fields on. -/
theorem read_time (clock : Clock) (fields : Fields) :
    read? toFraction fields clock.storedText =
      some { fields with
        hour := clock.hour
        minute := clock.minute
        second := clock.second
        micro := 1000 * (clock.micro / 1000) } := by
  have microLt := clock.micro.isLt
  have hourSize : (Text.padded 2 clock.hour).length = 2 := Text.length_padded (by decide) (by omega)
  have minuteSize : (Text.padded 2 clock.minute).length = 2 :=
    Text.length_padded (by decide) (by omega)
  have secondSize : (Text.padded 2 clock.second).length = 2 :=
    Text.length_padded (by decide) (by omega)
  have hour := field_append (by simp [shapes, hourSize]) (field_hour clock.hour)
  have minute := field_append (by simp [shapes, minuteSize]) (field_minute clock.minute)
  have second := field_append (by simp [shapes, secondSize]) (field_second clock.second)
  have micro := fraction_millis (by omega : clock.micro.val / 1000 < 1000)
  simp only [toFraction, toSecond, toMinute, Clock.storedText, List.cons_append, List.nil_append,
    List.append_assoc]
  rw [read_item_step (by rw [readItem?, hour, Option.map_some])]
  rw [read_mark_step (by decide)]
  rw [read_item_step (by rw [readItem?, minute, Option.map_some])]
  rw [read_mark_step (by decide)]
  rw [read_item_step (by rw [readItem?, second, Option.map_some])]
  rw [read_mark_step (by decide)]
  rw [read_item_step (by rw [readItem?, micro, Option.map_some])]
  rfl

theorem stamp_stored (stamp : Stamp) : stamp? stamp.text = some stamp.toMillis := by
  have microLt := stamp.clock.micro.isLt
  have head : ∀ c ∈ stamp.clock.storedText.head?, Text.isBlank c = false :=
    fun c member => Text.digit_not_blank (stamp.clock.stored_head c member)
  have fields : read? (date ++ .blanks :: toFraction) Fields.start stamp.text =
      some ⟨stamp.date.year, stamp.date.month, stamp.date.day, stamp.clock.hour,
        stamp.clock.minute, stamp.clock.second, 1000 * (stamp.clock.micro / 1000)⟩ := by
    rw [Stamp.text_eq, read_date, read_blank_step head, read_time]
  have clock : Clock.of? stamp.clock.hour stamp.clock.minute stamp.clock.second
      (1000 * (stamp.clock.micro / 1000)) = some stamp.toMillis.clock := by
    rw [Clock.of?, dif_pos (by omega)]
    simp only [Stamp.toMillis, Clock.toMillis, Nat.mul_comm]
  have found : stampOf? (date ++ .blanks :: toFraction) stamp.text = some stamp.toMillis := by
    simp only [stampOf?, fields, Option.bind_eq_bind, Option.bind_some, Fields.stamp?,
      Date.of_valid, clock]
    rfl
  simp only [stamp?, all, List.findSome?_cons, found]

end Layout

namespace Iso

theorem digits_append {s : Text} (digits : Text.AllDigits s) (value : Nat) (rest : Text) :
    digits? s.length value (s ++ rest) = some (Nat.ofDigitChars 10 s value, rest) := by
  induction s generalizing value with
  | nil => rfl
  | cons c s ih =>
      have head := digits c (by simp)
      have tail : Text.AllDigits s := fun d member => digits d (by simp [member])
      simp only [List.length_cons, List.cons_append, digits?, head, if_true, Nat.ofDigitChars_cons]
      exact ih tail _

/-- A number is read from its padded text, whatever follows. -/
theorem number_padded {width n : Nat} (positive : 0 < width) (below : n < 10 ^ width)
    (rest : Text) : number? width (Text.padded width n ++ rest) = some (n, rest) := by
  have digits := Text.padded_digits width n
  have found := digits_append digits 0 rest
  have worth : Nat.ofDigitChars 10 (Text.padded width n) 0 = n :=
    Option.some.inj (by rw [← Text.digits_eq digits, Text.digits_padded])
  rw [Text.length_padded positive below, worth] at found
  exact found

theorem date_text (date : Date) : date? date.text = some date := by
  have yearLe := date.year_le
  have monthLe := date.month_le
  have dayLe : date.day ≤ 31 := Nat.le_trans date.day_le (Date.days_in_month_le _ _)
  have year := number_padded (by decide : 0 < 4) (by omega : date.year < 10 ^ 4)
  have month := number_padded (by decide : 0 < 2) (by omega : date.month < 10 ^ 2)
  have day := number_padded (by decide : 0 < 2) (by omega : date.day < 10 ^ 2) []
  rw [List.append_nil] at day
  have head := Text.digits_head (Text.padded_digits 2 date.month)
    (Text.padded_ne_nil 2 date.month) ('-' :: Text.padded 2 date.day)
  simp only [date?, Date.text, List.append_assoc, List.cons_append, year, Option.bind_eq_bind,
    Option.bind_some]
  split
  · rename_i found
    have digit := head 'W' (by rw [found]; rfl)
    exact absurd digit (by decide)
  · simp only [calendarDate?, month, day, afterHyphen?, if_true, Option.bind_eq_bind,
      Option.bind_some, Date.of_valid]

theorem next_colon {rest : Text} (more : rest ≠ []) :
    next? true (':' :: rest) = some (.field rest) := by
  cases rest with
  | nil => exact absurd rfl more
  | cons c rest => rfl

theorem next_point {rest : Text} (more : rest ≠ []) :
    next? true ('.' :: rest) = some (.fraction rest) := by
  cases rest with
  | nil => exact absurd rfl more
  | cons c rest => rfl

theorem fraction_millis {millis : Nat} (below : millis < 1000) :
    fraction? (Text.padded 3 millis) = some (millis * 1000, true) := by
  have size : (Text.padded 3 millis).length = 3 := Text.length_padded (by decide) below
  have found := number_padded (by decide : 0 < 3) (by omega : millis < 10 ^ 3) []
  rw [List.append_nil] at found
  simp [fraction?, size, found, isEnd]

theorem clock_stored (clock : Clock) :
    clock? clock.storedText = some (clock.toMillis, none) := by
  have microLt := clock.micro.isLt
  have hour := number_padded (by decide : 0 < 2) (by omega : clock.hour.val < 10 ^ 2)
  have minute := number_padded (by decide : 0 < 2) (by omega : clock.minute.val < 10 ^ 2)
  have second := number_padded (by decide : 0 < 2) (by omega : clock.second.val < 10 ^ 2)
  have micro := fraction_millis (by omega : clock.micro.val / 1000 < 1000)
  have digit : ∀ width n, ∀ c ∈ Text.padded width n, (!startsOffset c) = true :=
    fun width n c member => Text.digit_cases (P := fun c => (!startsOffset c) = true) (by decide)
      (Text.padded_digits width n c member)
  have plain : ∀ c ∈ clock.storedText, (!startsOffset c) = true := by
    simp only [Clock.storedText, List.mem_append, List.mem_cons]
    rintro c (((member | rfl | member) | rfl | member) | rfl | member)
    all_goals first | exact digit _ _ _ member | decide
  have time := List.takeWhile_eq_self_iff.mpr plain
  have zone := Text.drop_while_run [] plain (by simp)
  rw [List.append_nil] at zone
  have parts : parts? clock.storedText =
      some ⟨clock.hour, clock.minute, clock.second, clock.micro / 1000 * 1000, true⟩ := by
    simp only [parts?, Clock.storedText, List.append_assoc, List.cons_append, hour,
      Option.bind_eq_bind, Option.bind_some, List.head?_cons, decide_true]
    rw [next_colon (by simp [Text.padded_ne_nil])]
    simp only [minute, Option.bind_some]
    rw [next_colon (by simp [Text.padded_ne_nil])]
    simp only [second, Option.bind_some]
    rw [next_point (Text.padded_ne_nil 3 _)]
    simp only [finish?, micro, Option.bind_eq_bind, Option.bind_some]
  have found : Clock.of? clock.hour clock.minute clock.second (clock.micro / 1000 * 1000) =
      some clock.toMillis :=
    dif_pos (by omega)
  simp only [clock?, time, zone, parts, found, Option.bind_eq_bind, Option.bind_some, if_true]

/-- Behind four characters and a hyphen a date takes ten characters, unless it is a week date. -/
theorem date_length_hyphen {year rest : Text} (size : year.length = 4) (long : 3 ≤ rest.length)
    (month : rest.head? ≠ some 'W') : dateLength (year ++ '-' :: rest) = 10 := by
  have notSeven : (year ++ '-' :: rest).length ≠ 7 := by
    rw [List.length_append, List.length_cons]
    omega
  have hyphen : (year ++ '-' :: rest)[4]? = some '-' := by
    rw [List.getElem?_append_right (by omega), size]
    rfl
  have noWeek : (year ++ '-' :: rest)[5]? ≠ some 'W' := by
    rw [List.getElem?_append_right (by omega), size]
    rwa [List.head?_eq_getElem?] at month
  simp only [dateLength, if_neg notSeven, if_pos hyphen, if_neg noWeek]

theorem date_length_stored (stamp : Stamp) : dateLength stamp.text = 10 := by
  have yearLe := stamp.date.year_le
  have year : (Text.padded 4 stamp.date.year).length = 4 :=
    Text.length_padded (by decide) (by omega)
  have form : stamp.text = Text.padded 4 stamp.date.year ++ '-' :: (Text.padded 2 stamp.date.month ++
      '-' :: Text.padded 2 stamp.date.day ++ ' ' :: stamp.clock.storedText) := by
    simp only [Stamp.text_eq, Date.text, List.append_assoc, List.cons_append]
  have size := stamp.date.length_text
  rw [form]
  apply date_length_hyphen year
  · simp only [Date.text, List.length_append, List.length_cons, year] at size ⊢
    omega
  · intro week
    rw [List.append_assoc] at week
    have digit := Text.digits_head (Text.padded_digits 2 _) (Text.padded_ne_nil 2 _) _ 'W' week
    exact absurd digit (by decide)

theorem moment_stored (stamp : Stamp) : moment? stamp.text = some (.naive stamp.toMillis) := by
  rw [moment?, date_length_stored, Stamp.text_eq, ← stamp.date.length_text, List.take_left,
    List.drop_left]
  simp only [date_text, clock_stored, Option.bind_eq_bind, Option.bind_some]
  rfl

end Iso

theorem Stamp.trim_text (stamp : Stamp) : Text.trim stamp.text = stamp.text := by
  apply Text.trim_of_ends
  · intro c member
    simp only [Stamp.text, Date.text, List.append_assoc] at member
    exact Text.digit_not_blank
      (Text.digits_head (Text.padded_digits 4 _) (Text.padded_ne_nil 4 _) _ c member)
  · intro c member
    rw [Stamp.text, List.append_cons] at member
    exact Text.digit_not_blank
      (Text.digits_last (Text.padded_digits 3 _) (Text.padded_ne_nil 3 _) _ c member)

/-- A stored stamp is read as itself, cut off to milliseconds. -/
theorem Stamp.read_text (stamp : Stamp) : Stamp.read stamp.text = .ok stamp.toMillis := by
  simp only [Stamp.read, Stamp.trim_text, Layout.stamp_stored]

/-- A stored stamp is read as a moment in universal time. -/
theorem Moment.read_text (stamp : Stamp) : Moment.read stamp.text = .ok (.utc stamp.toMillis) := by
  simp only [Moment.read, Stamp.trim_text, Iso.moment_stored]
  rfl

end Time
end SqlPipeline
