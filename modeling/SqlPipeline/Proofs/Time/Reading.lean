import SqlPipeline.Proofs.Time.Layout

/-!
The stored layouts and the ISO forms agree on the texts that both read. The two readers go through
such a text side by side: where the ISO form takes a number of a fixed width, so does the layout,
since what comes next in it is never a digit. Hence the order in which layouts and forms are tried
does not matter, and a text read as a stamp is at the instant of the same text read as a moment.
-/

namespace SqlPipeline
namespace Time

namespace Iso

/-- What a time of day with colons is read as from behind its seconds on. -/
def afterSecond? (hour minute second : Nat) (s : Text) : Option Parts := do
  match ← next? true s with
  | .stop complete => some ⟨hour, minute, second, 0, complete⟩
  | .fraction s => finish? hour minute second s
  | .field s => finish? hour minute second s

/-- What a time of day with colons is read as from behind its minutes on. -/
def afterMinute? (hour minute : Nat) (s : Text) : Option Parts := do
  match ← next? true s with
  | .stop complete => some ⟨hour, minute, 0, 0, complete⟩
  | .fraction s => finish? hour minute 0 s
  | .field s => do
      let (second, s) ← number? 2 s
      afterSecond? hour minute second s

theorem parts_colon {time rest : Text} {hour : Nat}
    (found : number? 2 time = some (hour, ':' :: rest)) (more : rest ≠ []) :
    parts? time = (number? 2 rest).bind fun (minute, s) => afterMinute? hour minute s := by
  simp only [parts?, found, Option.bind_eq_bind, Option.bind_some, List.head?_cons, decide_true]
  rw [next_colon more]
  rfl

theorem after_minute_colon (hour minute : Nat) {rest : Text} (more : rest ≠ []) :
    afterMinute? hour minute (':' :: rest) =
      (number? 2 rest).bind fun (second, s) => afterSecond? hour minute second s := by
  simp only [afterMinute?, Option.bind_eq_bind, next_colon more, Option.bind_some]

theorem after_second_point (hour minute second : Nat) {rest : Text} (more : rest ≠ []) :
    afterSecond? hour minute second ('.' :: rest) = finish? hour minute second rest := by
  simp only [afterSecond?, Option.bind_eq_bind, next_point more, Option.bind_some]

end Iso

namespace Layout

/-- A fraction that the ISO form reads in front of an offset is the same number in a layout. -/
theorem fraction_of_iso {s zone : Text} {micro : Nat} {complete : Bool}
    (found : Iso.fraction? s = some (micro, complete)) (more : s ≠ [])
    (stop : ∀ c ∈ zone.head?, Text.isAsciiDigit c = false) :
    ∃ rest, fraction? (s ++ zone) = some (micro, rest ++ zone) := by
  obtain ⟨⟨value, rest⟩, taken, same⟩ := Option.bind_eq_some_iff.mp found
  cases same
  obtain ⟨run, all, size, rfl, rfl⟩ := Iso.number_iff.mp taken
  have positive : 0 < (run ++ rest).length := List.length_pos_iff.mpr more
  have filled : run ≠ [] := List.ne_nil_of_length_pos (by omega)
  have short : run.length ≤ 6 := by omega
  have ends : ∀ c ∈ ((rest ++ zone).take (6 - run.length)).head?, Text.isAsciiDigit c = false := by
    by_cases full : run.length = 6
    · simp [full]
    · have used : rest = [] := List.eq_nil_of_length_eq_zero (by
        rw [List.length_append] at size
        omega)
      intro c head
      rw [used, List.nil_append, List.head?_take, if_neg (by omega)] at head
      exact stop c head
  have digits : ((run ++ rest ++ zone).take 6).takeWhile Text.isAsciiDigit = run := by
    rw [List.append_assoc, List.take_append, List.take_of_length_le short]
    exact Text.take_while_run _ all ends
  have scaled : Text.digits? (List.rightpad 6 '0' run) =
      some (10 ^ (6 - run.length) * Text.worth run) :=
    Text.digits_pad_right all (Text.digits_eq all) 6
  have padded : Text.AllDigits (List.rightpad 6 '0' run) :=
    Text.all_digits_append.mpr ⟨all, Text.all_digits_replicate_zero _⟩
  refine ⟨rest, ?_⟩
  have notEmpty : run.isEmpty = false := List.isEmpty_eq_false_iff.mpr filled
  simp only [fraction?, digits, notEmpty, Bool.false_eq_true, if_false, number_of_digits padded scaled,
    Option.some.injEq, Prod.mk.injEq]
  constructor
  · rw [← size, Nat.mul_comm]
  · rw [List.append_assoc, List.drop_left]

theorem offset_no_digit {c : Char} (offset : Iso.startsOffset c = true) :
    Text.isAsciiDigit c = false := by
  simp only [Iso.startsOffset, Bool.or_eq_true, decide_eq_true_eq] at offset
  rcases offset with (rfl | rfl) | rfl <;> decide

/-- The fields with a time of day set. -/
def Fields.putTime (fields : Fields) (parts : Iso.Parts) : Fields :=
  { fields with
    hour := parts.hour
    minute := parts.minute
    second := parts.second
    micro := parts.micro }

section SideBySide

variable {items : List Item} {fields out : Fields} {s zone : Text} {parts : Iso.Parts}
  (offset : ∀ c ∈ zone.head?, Iso.startsOffset c = true)

include offset

theorem fraction_agrees
    (read : read? (.mark '.' :: .fraction :: items) fields (s ++ zone) = some out)
    (found : Iso.afterSecond? fields.hour fields.minute fields.second s = some parts) :
    ∃ more, read? items (fields.putTime parts) (more ++ zone) = some out := by
  obtain ⟨rest, rfl, later⟩ := read_plain (by decide) (by decide) offset read
  have filled := read_filled (.inr (.inr rfl)) offset later
  rw [Iso.after_second_point _ _ _ filled] at found
  obtain ⟨⟨micro, complete⟩, taken, same⟩ := Option.bind_eq_some_iff.mp found
  cases same
  obtain ⟨more, got⟩ :=
    fraction_of_iso taken filled fun c head => offset_no_digit (offset c head)
  have step : readItem? fields (rest ++ zone) .fraction =
      some ({ fields with micro := micro }, more ++ zone) := by
    rw [readItem?, got, Option.map_some]
  rw [read_item_step step] at later
  exact ⟨more, later⟩

/-- An offset that a layout has room for is universal time. -/
theorem ending_agrees (ends : IsEnding items) (start : fields.micro = 0)
    (read : read? items fields (s ++ zone) = some out)
    (found : Iso.afterSecond? fields.hour fields.minute fields.second s = some parts) :
    out = fields.putTime parts ∧ (zone = [] ∨ zone = ['Z']) := by
  cases ends with
  | whole =>
      obtain ⟨empty, rfl⟩ := read_end read
      obtain ⟨rfl, rfl⟩ := List.append_eq_nil_iff.mp empty
      cases found
      exact ⟨by rw [Fields.putTime, ← start], .inl rfl⟩
  | fraction =>
      obtain ⟨more, read⟩ := fraction_agrees offset read found
      obtain ⟨empty, same⟩ := read_end read
      exact ⟨same, .inl (List.append_eq_nil_iff.mp empty).2⟩
  | zulu =>
      obtain ⟨more, read⟩ := fraction_agrees offset read found
      obtain ⟨mark, rest, cut, upper, read⟩ := read_mark read
      obtain ⟨rfl, same⟩ := read_end read
      refine ⟨same, ?_⟩
      -- the mark is the offset, or what the ISO form passes over at the end of a fraction
      cases more with
      | nil =>
          rw [List.nil_append] at cut
          subst cut
          have known := offset mark rfl
          simp only [Iso.startsOffset, Bool.or_eq_true, decide_eq_true_eq] at known
          rcases known with (rfl | rfl) | rfl
          · cases upper
          · cases upper
          · exact .inr rfl
      | cons c more =>
          have empty : more ++ zone = [] := (List.cons.inj cut).2
          exact .inl (List.append_eq_nil_iff.mp empty).2

theorem minute_agrees (stops : Stops items)
    (read : read? (toMinute ++ items) fields (s ++ zone) = some out)
    (found : Iso.parts? s = some parts) :
    ∃ hour minute rest, Iso.afterMinute? hour minute rest = some parts ∧
      read? items { fields with hour := hour, minute := minute } (rest ++ zone) = some out := by
  obtain ⟨⟨hour, s⟩, hourTaken, _⟩ := Option.bind_eq_some_iff.mp found
  have colon : Text.isAsciiDigit ':' = false := by decide
  have read := read_number (by decide) (by decide) (stops_mark colon _)
    (Iso.number_append hourTaken zone) read
  obtain ⟨s, rfl, read⟩ := read_plain (by decide) (by decide) offset read
  have filled := read_filled (.inl rfl) offset read
  rw [Iso.parts_colon hourTaken filled] at found
  obtain ⟨⟨minute, rest⟩, minuteTaken, found⟩ := Option.bind_eq_some_iff.mp found
  have read := read_number (by decide) (by decide) stops (Iso.number_append minuteTaken zone) read
  exact ⟨hour, minute, rest, found, read⟩

/-- The layout reads the time of day that the ISO form reads. -/
theorem time_agrees (form : IsTime items) (second : fields.second = 0) (micro : fields.micro = 0)
    (read : read? items fields (s ++ zone) = some out) (found : Iso.parts? s = some parts) :
    out = fields.putTime parts ∧ (zone = [] ∨ zone = ['Z']) := by
  cases form with
  | toMinute =>
      obtain ⟨hour, minute, rest, found, read⟩ := minute_agrees offset stops_nil read found
      obtain ⟨empty, rfl⟩ := read_end read
      obtain ⟨rfl, rfl⟩ := List.append_eq_nil_iff.mp empty
      cases found
      exact ⟨by simp only [Fields.putTime, second, micro], .inl rfl⟩
  | toSecond ends =>
      have colon : Text.isAsciiDigit ':' = false := by decide
      obtain ⟨hour, minute, s, found, read⟩ :=
        minute_agrees offset (stops_mark colon _) read found
      obtain ⟨s, rfl, read⟩ := read_plain (by decide) (by decide) offset read
      have filled := read_filled (.inr (.inl rfl)) offset read
      rw [Iso.after_minute_colon _ _ filled] at found
      obtain ⟨⟨whole, rest⟩, taken, found⟩ := Option.bind_eq_some_iff.mp found
      have read := read_number (by decide) (by decide) ends.stops (Iso.number_append taken zone) read
      have agreed := ending_agrees offset ends (by exact micro) read found
      exact agreed

end SideBySide

end Layout

namespace Iso

/-- A time of day is read up to its offset, which is none at the end of the text. -/
theorem clock_cut {s : Text} {clock : Clock} {offset? : Option Offset}
    (found : clock? s = some (clock, offset?)) :
    ∃ time zone parts, s = time ++ zone ∧ (∀ c ∈ zone.head?, startsOffset c = true) ∧
      parts? time = some parts ∧
      Clock.of? parts.hour parts.minute parts.second parts.micro = some clock ∧
      (zone = [] -> offset? = none) ∧ (zone = ['Z'] -> offset? = some 0) := by
  obtain ⟨parts, read, found⟩ := Option.bind_eq_some_iff.mp found
  refine ⟨_, _, parts, List.takeWhile_append_dropWhile.symm, ?_, read, ?_⟩
  · intro c head
    simpa using Text.drop_while_head c head
  · dsimp only at found
    cases zone : s.dropWhile fun c => !startsOffset c with
    | nil =>
        rw [zone] at found
        obtain ⟨_, found⟩ := Option.ite_none_right_eq_some.mp found
        obtain ⟨own, made, same⟩ := Option.bind_eq_some_iff.mp found
        cases same
        exact ⟨made, fun _ => rfl, nofun⟩
    | cons mark rest =>
        rw [zone] at found
        by_cases zulu : mark = 'Z'
        · obtain ⟨_, found⟩ := Option.ite_none_right_eq_some.mp ((if_pos zulu).symm.trans found)
          obtain ⟨own, made, same⟩ := Option.bind_eq_some_iff.mp found
          cases same
          exact ⟨made, nofun, fun _ => rfl⟩
        · obtain ⟨offset, _, found⟩ :=
            Option.bind_eq_some_iff.mp ((if_neg zulu).symm.trans found)
          obtain ⟨own, made, same⟩ := Option.bind_eq_some_iff.mp found
          cases same
          exact ⟨made, nofun, fun lone => absurd (List.cons.inj lone).1 zulu⟩

/-- Behind a year and a hyphen a date goes on with a month, unless it is a week date. -/
theorem date_hyphen {s rest : Text} {year : Nat} (found : number? 4 s = some (year, '-' :: rest))
    (month : rest.head? ≠ some 'W') : date? s = calendarDate? true year rest := by
  simp only [date?, found, Option.bind_eq_bind, Option.bind_some]
  split
  · exact absurd rfl month
  · rfl

theorem calendar_date_cut {s : Text} {year : Nat} {day : Date}
    (found : calendarDate? true year s = some day) :
    ∃ afterMonth afterDay, number? 2 s = some (day.month, '-' :: afterMonth) ∧
      number? 2 afterMonth = some (day.day, afterDay) ∧ day.year = year := by
  obtain ⟨⟨month, afterMonth⟩, monthTaken, found⟩ := Option.bind_eq_some_iff.mp found
  obtain ⟨afterHyphen, hyphen, found⟩ := Option.bind_eq_some_iff.mp found
  obtain ⟨⟨number, afterDay⟩, dayTaken, found⟩ := Option.bind_eq_some_iff.mp found
  obtain ⟨valid, same⟩ := Option.dite_none_right_eq_some.mp found
  cases same
  unfold afterHyphen? at hyphen
  rw [if_pos rfl] at hyphen
  split at hyphen
  · cases hyphen
    exact ⟨_, _, monthTaken, dayTaken, rfl⟩
  · cases hyphen

end Iso

namespace Layout

/-- The layout reads the date that the ISO form reads from ten characters, and goes on behind them. -/
theorem date_agrees {items : List Item} {out : Fields} {s : Text} {day : Date} (stops : Stops items)
    (read : read? (date ++ items) Fields.start s = some out)
    (found : Iso.date? (s.take 10) = some day) :
    read? items { Fields.start with year := day.year, month := day.month, day := day.day }
      (s.drop 10) = some out := by
  have whole : s.take 10 ++ s.drop 10 = s := List.take_append_drop 10 s
  have size : (s.take 10).length ≤ 10 := List.length_take_le 10 s
  have hyphen : Text.isAsciiDigit '-' = false := by decide
  rw [← whole] at read
  generalize s.take 10 = front, s.drop 10 = back at *
  obtain ⟨⟨year, afterYear⟩, yearTaken, _⟩ := Option.bind_eq_some_iff.mp found
  have read := read_number (by decide) (by decide) (stops_mark hyphen _)
    (Iso.number_append yearTaken back) read
  obtain ⟨mark, rest, cut, upper, read⟩ := read_mark read
  have same := eq_of_upper (by decide) upper
  subst same
  cases afterYear with
  | nil =>
      rw [Iso.date?, yearTaken] at found
      cases found
  | cons mark afterHyphen =>
      rw [List.cons_append, List.cons.injEq] at cut
      obtain ⟨rfl, rfl⟩ := cut
      have month : afterHyphen.head? ≠ some 'W' := by
        intro week
        apply read_month read
        rw [List.head?_append, week, Option.some_or]
      rw [Iso.date_hyphen yearTaken month] at found
      obtain ⟨afterMonth, afterDay, monthTaken, dayTaken, rfl⟩ := Iso.calendar_date_cut found
      have read := read_number (by decide) (by decide) (stops_mark hyphen _)
        (Iso.number_append monthTaken back) read
      obtain ⟨_, _, cut, _, read⟩ := read_mark read
      cases cut
      have read := read_number (by decide) (by decide) stops (Iso.number_append dayTaken back) read
      have used : afterDay = [] := by
        have yearSize := Iso.length_of_number yearTaken
        have monthSize := Iso.length_of_number monthTaken
        have daySize := Iso.length_of_number dayTaken
        simp only [List.length_cons] at yearSize monthSize
        exact List.eq_nil_of_length_eq_zero (by omega)
      rw [used, List.nil_append] at read
      exact read

/-- A layout reads the time of day that the ISO form reads, and no offset that is not zero. -/
theorem clock_agrees {gap : Item} {time : List Item} {fields out : Fields} {c : Char} {s : Text}
    {clock : Clock} {offset? : Option Offset} (gapped : IsGap gap) (form : IsTime time)
    (second : fields.second = 0) (micro : fields.micro = 0)
    (read : read? (gap :: time) fields (c :: s) = some out)
    (found : Iso.clock? s = some (clock, offset?)) :
    Clock.of? out.hour out.minute out.second out.micro = some clock ∧ out.year = fields.year ∧
      out.month = fields.month ∧ out.day = fields.day ∧ (offset? = none ∨ offset? = some 0) := by
  obtain ⟨front, zone, parts, rfl, offset, timeTaken, made, naive, zulu⟩ := Iso.clock_cut found
  have digit : ∀ d ∈ (front ++ zone).head?, Text.isAsciiDigit d = true := by
    obtain ⟨⟨hour, rest⟩, taken, _⟩ := Option.bind_eq_some_iff.mp timeTaken
    obtain ⟨run, all, size, _, rfl⟩ := Iso.number_iff.mp taken
    cases run with
    | nil => cases size
    | cons d run =>
        rintro _ ⟨⟩
        exact all d (by simp)
  have later := read_gap gapped digit read
  obtain ⟨rfl, zoneCase⟩ := time_agrees offset form second micro later timeTaken
  exact ⟨made, rfl, rfl, rfl, zoneCase.imp naive zulu⟩

/-- A time of day alone is no moment of the ISO form, which starts with a year. -/
theorem time_alone_not_iso {fields out : Fields} {s : Text} (read : read? toSecond fields s = some out) :
    Iso.moment? s = none := by
  obtain ⟨hour, ⟨_, hourShape, hourSize⟩, _, rfl, fromColon⟩ := read_run (by decide) read
  obtain ⟨mark, rest, rfl, upper, _⟩ := read_mark fromColon
  have same := eq_of_upper (by decide) upper
  subst same
  have short : ∀ shape ∈ shapes .hour, shape.length ≤ 2 := by decide
  have hourShort := short _ hourShape
  apply Option.eq_none_iff_forall_ne_some.mpr
  intro moment found
  obtain ⟨day, dayTaken, _⟩ := Option.bind_eq_some_iff.mp found
  obtain ⟨⟨year, tail⟩, yearTaken, _⟩ := Option.bind_eq_some_iff.mp dayTaken
  obtain ⟨digits, all, size, _, cut⟩ := Iso.number_iff.mp yearTaken
  obtain ⟨more, whole⟩ : digits <+: hour ++ ':' :: rest := by
    exact (List.prefix_iff_exists_append_eq.mpr ⟨tail, cut.symm⟩).trans (List.take_prefix _ _)
  rcases List.append_eq_append_iff.mp whole with ⟨left, longer, _⟩ | ⟨left, rfl, later⟩
  · have length := congrArg List.length longer
    rw [List.length_append] at length
    omega
  · cases left with
    | nil =>
        rw [List.length_append, List.length_nil] at size
        omega
    | cons c left =>
        cases later
        have digit : Text.isAsciiDigit ':' = true := all ':' (by simp)
        cases digit

theorem Fields.stamp_of_date {fields : Fields} {day : Date} (clock : Clock)
    (year : fields.year = day.year) (month : fields.month = day.month)
    (number : fields.day = day.day)
    (made : Clock.of? fields.hour fields.minute fields.second fields.micro = some clock) :
    fields.stamp? = some ⟨day, clock⟩ := by
  simp only [stamp?, made, year, month, number, Date.of_valid, Option.bind_eq_bind,
    Option.bind_some]

/-- The stamp of a layout is the moment of the ISO form in universal time. -/
theorem moment_agrees {s : Text} {stamp : Stamp} {moment : Moment} (stored : stamp? s = some stamp)
    (found : Iso.moment? s = some moment) : moment.utcStamp? = some stamp := by
  obtain ⟨layout, member, fitting⟩ := List.exists_of_findSome?_eq_some stored
  obtain ⟨out, read, valid⟩ := Option.bind_eq_some_iff.mp fitting
  obtain ⟨day, dayTaken, rest⟩ := Option.bind_eq_some_iff.mp found
  -- whichever layout it was, the ISO form settles what is in each field
  rcases all_cases member with rfl | rfl | ⟨gap, time, gapped, form, rfl⟩
  · have dated : read? (date ++ []) Fields.start s = some out := read
    rw [date_length dated] at dayTaken rest
    obtain ⟨empty, rfl⟩ := read_end (date_agrees stops_nil dated dayTaken)
    rw [empty] at rest
    cases rest
    cases valid.symm.trans (Fields.stamp_of_date Clock.midnight rfl rfl rfl rfl)
    rfl
  · rw [time_alone_not_iso read] at found
    cases found
  · rw [date_length read] at dayTaken rest
    have later := date_agrees (gapped.stops time) read dayTaken
    generalize s.drop 10 = back at later rest
    cases back with
    | nil =>
        obtain ⟨_, _, step, _⟩ := read_cons later
        cases gapped with
        | blanks => cases step
        | letter => cases step
    | cons c back =>
        obtain ⟨⟨clock, offset?⟩, clockTaken, same⟩ := Option.bind_eq_some_iff.mp rest
        cases same
        obtain ⟨made, year, month, number, zone⟩ := clock_agrees gapped form rfl rfl later clockTaken
        cases valid.symm.trans (Fields.stamp_of_date clock year month number made)
        rcases zone with rfl | rfl
        · rfl
        · rfl

end Layout

/-- What is stored of a moment, if its instant is in the calendar. -/
def Moment.toUtc (moment : Moment) : Except ReadError Stamp :=
  match moment.utcStamp? with
  | some stamp => .ok stamp
  | none => .error .outOfRange

/-- Reading a naive stamp is reading a moment and going to universal time. -/
theorem Stamp.read_eq (s : Text) : Stamp.read s = (Moment.read s).bind Moment.toUtc := by
  cases iso : Iso.moment? (Text.trim s) with
  | none =>
      simp only [Moment.read, Stamp.read, Text.trim_trim, iso]
      cases Layout.stamp? (Text.trim s) with
      | none => rfl
      | some stamp => rfl
  | some moment =>
      simp only [Moment.read, Stamp.read, iso, Except.bind, Moment.toUtc, Moment.utc_stamp_or_utc]
      cases stored : Layout.stamp? (Text.trim s) with
      | none =>
          cases moment.utcStamp? with
          | none => rfl
          | some stamp => rfl
      | some stamp => rw [Layout.moment_agrees stored iso]

theorem Moment.to_utc_iff {moment : Moment} {stamp : Stamp} :
    moment.toUtc = .ok stamp ↔ (stamp.micros : Int) = moment.instant := by
  rw [← utc_stamp_iff, toUtc]
  cases moment.utcStamp? with
  | none => exact iff_of_false nofun nofun
  | some utc => rw [Except.ok.injEq, Option.some.injEq]

end Time
end SqlPipeline
