import SqlPipeline.Proofs.Text.Order
import SqlPipeline.Proofs.Time.StoredStamp

/-!
What the layouts of stored stamps read. Where the text has a number of a fixed width, a layout reads
that number, since what comes next in a layout is never a digit; marks that are no letters stand in
the text as they are.
-/

namespace SqlPipeline
namespace Time

namespace Iso

theorem digits_cut {count value n : Nat} {s rest : Text}
    (found : digits? count value s = some (n, rest)) :
    ∃ run : Text, Text.AllDigits run ∧ run.length = count ∧ n = Nat.ofDigitChars 10 run value ∧
      s = run ++ rest := by
  induction count generalizing value s with
  | zero =>
      cases found
      exact ⟨[], by simp [Text.AllDigits], rfl, rfl, rfl⟩
  | succ count ih =>
      cases s with
      | nil => cases found
      | cons c s =>
          rw [digits?, Option.ite_none_right_eq_some] at found
          obtain ⟨digit, found⟩ := found
          obtain ⟨run, all, size, worth, rfl⟩ := ih found
          refine ⟨c :: run, ?_, by rw [List.length_cons, size], ?_, rfl⟩
          · exact List.forall_mem_cons.mpr ⟨digit, all⟩
          · rw [worth, Nat.ofDigitChars_cons]

/-- A number is a run of digits, and worth what they are. -/
theorem number_iff {width n : Nat} {s rest : Text} :
    number? width s = some (n, rest) ↔
      ∃ run : Text, Text.AllDigits run ∧ run.length = width ∧ n = Text.worth run ∧
        s = run ++ rest := by
  constructor
  · exact digits_cut
  · rintro ⟨run, all, rfl, rfl, rfl⟩
    exact digits_append all 0 rest

theorem number_append {width n : Nat} {s rest : Text} (found : number? width s = some (n, rest))
    (more : Text) : number? width (s ++ more) = some (n, rest ++ more) := by
  obtain ⟨run, all, size, worth, rfl⟩ := number_iff.mp found
  exact number_iff.mpr ⟨run, all, size, worth, List.append_assoc run rest more⟩

theorem length_of_number {width n : Nat} {s rest : Text}
    (found : number? width s = some (n, rest)) : s.length = width + rest.length := by
  obtain ⟨run, _, size, _, rfl⟩ := number_iff.mp found
  rw [List.length_append, size]

end Iso

namespace Layout

theorem fits_length {shape : List (Char -> Bool)} {s : Text} (fitting : fits shape s = true) :
    shape.length ≤ s.length := by
  induction shape generalizing s with
  | nil => exact Nat.zero_le _
  | cons test tests ih =>
      cases s with
      | nil => cases fitting
      | cons c s =>
          rw [fits, Bool.and_eq_true] at fitting
          exact Nat.succ_le_succ (ih fitting.2)

/-- A field is a run as long as one of its shapes. -/
theorem field_cut {item : Item} {s rest : Text} {n : Nat} (found : field? item s = some (n, rest)) :
    ∃ run : Text, (∃ shape ∈ shapes item, run.length = shape.length) ∧ n = number run ∧
      s = run ++ rest := by
  unfold field? at found
  split at found
  · rename_i shape chosen
    cases found
    have fitting := List.find?_some chosen
    refine ⟨s.take shape.length, ⟨shape, List.mem_of_find?_eq_some chosen, ?_⟩, rfl, ?_⟩
    · exact List.length_take_of_le (fits_length fitting)
    · exact (List.take_append_drop _ _).symm
  · cases found

/-- A field in front of what is no digit is the number that stands there. -/
theorem field_of_number {item : Item} {width n k : Nat} {s more rest : Text}
    (short : ∀ shape ∈ shapes item, shape.length ≤ width)
    (found : Iso.number? width s = some (n, more)) (read : field? item s = some (k, rest))
    (stop : ∀ c ∈ rest.head?, Text.isAsciiDigit c = false) : k = n ∧ rest = more := by
  obtain ⟨digits, all, size, rfl, rfl⟩ := Iso.number_iff.mp found
  obtain ⟨run, ⟨shape, member, length⟩, rfl, cut⟩ := field_cut read
  have runShort : run.length ≤ digits.length := by
    rw [length, size]
    exact short shape member
  have same : run = digits ∧ rest = more := by
    rcases List.append_eq_append_iff.mp cut with ⟨left, rfl, rfl⟩ | ⟨left, rfl, rfl⟩
    · have none : left = [] := List.eq_nil_of_length_eq_zero (by
        rw [List.length_append] at runShort
        omega)
      simp [none]
    · cases left with
      | nil => simp
      | cons c left =>
          have digit : Text.isAsciiDigit c = true := all c (by simp)
          rw [stop c rfl] at digit
          cases digit
  obtain ⟨rfl, rfl⟩ := same
  have worth : Text.digits? run = some (Text.worth run) := Text.digits_eq all
  exact ⟨number_of_digits all worth, rfl⟩

/-- The fields with one of them set. -/
def Fields.put (fields : Fields) : Item -> Nat -> Fields
  | .year, n => { fields with year := n }
  | .month, n => { fields with month := n }
  | .day, n => { fields with day := n }
  | .hour, n => { fields with hour := n }
  | .minute, n => { fields with minute := n }
  | .second, n => { fields with second := n }
  | .fraction, n => { fields with micro := n }
  | .blanks, _ => fields
  | .mark _, _ => fields

theorem read_item_of_shapes {item : Item} (numeric : shapes item ≠ []) (fields : Fields) (s : Text) :
    readItem? fields s item = (field? item s).map fun (n, rest) => (fields.put item n, rest) := by
  cases item with
  | fraction => exact absurd rfl numeric
  | blanks => exact absurd rfl numeric
  | mark c => exact absurd rfl numeric
  | _ => rfl

/-- Items that no text is read by which starts with a digit. -/
def Stops (items : List Item) : Prop :=
  ∀ fields c s, Text.isAsciiDigit c = true -> read? items fields (c :: s) = none

theorem stops_nil : Stops [] :=
  fun _ _ _ _ => rfl

theorem stops_blanks (items : List Item) : Stops (.blanks :: items) := by
  intro fields c s digit
  simp [read?, readItem?, Text.afterBlanks?, Text.digit_not_blank digit]

theorem stops_mark {c : Char} (mark : Text.isAsciiDigit c = false) (items : List Item) :
    Stops (.mark c :: items) := by
  intro fields d s digit
  have upper : d.toUpper = d := Text.digit_cases (P := fun d => d.toUpper = d) (by decide) digit
  have other : d ≠ c := by
    rintro rfl
    rw [mark] at digit
    cases digit
  simp [read?, readItem?, upper, other]

theorem read_cons {item : Item} {items : List Item} {fields out : Fields} {s : Text}
    (read : read? (item :: items) fields s = some out) :
    ∃ next rest, readItem? fields s item = some (next, rest) ∧ read? items next rest = some out := by
  obtain ⟨⟨next, rest⟩, step, later⟩ := Option.bind_eq_some_iff.mp read
  exact ⟨next, rest, step, later⟩

theorem read_end {fields out : Fields} {s : Text} (read : read? [] fields s = some out) :
    s = [] ∧ out = fields := by
  rw [read?, Option.ite_none_right_eq_some, List.isEmpty_iff] at read
  exact ⟨read.1, (Option.some.inj read.2).symm⟩

theorem read_field {item : Item} {items : List Item} {fields out : Fields} {s : Text}
    (numeric : shapes item ≠ []) (read : read? (item :: items) fields s = some out) :
    ∃ n rest, field? item s = some (n, rest) ∧
      read? items (fields.put item n) rest = some out := by
  obtain ⟨next, rest, step, later⟩ := read_cons read
  rw [read_item_of_shapes numeric] at step
  obtain ⟨⟨n, after⟩, taken, same⟩ := Option.map_eq_some_iff.mp step
  cases same
  exact ⟨n, rest, taken, later⟩

/-- A layout reads a field as a run of characters. -/
theorem read_run {item : Item} {items : List Item} {fields out : Fields} {s : Text}
    (numeric : shapes item ≠ []) (read : read? (item :: items) fields s = some out) :
    ∃ run : Text, (∃ shape ∈ shapes item, run.length = shape.length) ∧ ∃ rest, s = run ++ rest ∧
      read? items (fields.put item (number run)) rest = some out := by
  obtain ⟨n, rest, taken, later⟩ := read_field numeric read
  obtain ⟨run, shaped, rfl, cut⟩ := field_cut taken
  exact ⟨run, shaped, rest, cut, later⟩

theorem Stops.head {items : List Item} {fields out : Fields} {s : Text} (stops : Stops items)
    (read : read? items fields s = some out) :
    ∀ c ∈ s.head?, Text.isAsciiDigit c = false := by
  intro c head
  cases s with
  | nil => cases head
  | cons d rest =>
      cases head
      apply Bool.eq_false_iff.mpr
      intro digit
      rw [stops fields c rest digit] at read
      cases read

/-- Where a number stands, a layout reads that number and goes on behind it. -/
theorem read_number {item : Item} {items : List Item} {fields out : Fields} {width n : Nat}
    {s more : Text} (numeric : shapes item ≠ [])
    (short : ∀ shape ∈ shapes item, shape.length ≤ width) (stops : Stops items)
    (found : Iso.number? width s = some (n, more))
    (read : read? (item :: items) fields s = some out) :
    read? items (fields.put item n) more = some out := by
  obtain ⟨k, rest, taken, later⟩ := read_field numeric read
  obtain ⟨rfl, rfl⟩ := field_of_number short found taken (stops.head later)
  exact later

theorem read_mark {c : Char} {items : List Item} {fields out : Fields} {s : Text}
    (read : read? (.mark c :: items) fields s = some out) :
    ∃ d rest, s = d :: rest ∧ d.toUpper = c ∧ read? items fields rest = some out := by
  obtain ⟨next, rest, step, later⟩ := read_cons read
  cases s with
  | nil => cases step
  | cons d s =>
      rw [readItem?, Option.ite_none_right_eq_some] at step
      obtain ⟨upper, same⟩ := step
      cases same
      exact ⟨d, _, rfl, upper, later⟩

theorem read_month {items : List Item} {fields out : Fields} {s : Text}
    (read : read? (.month :: items) fields s = some out) : s.head? ≠ some 'W' := by
  obtain ⟨next, rest, step, _⟩ := read_cons read
  intro week
  cases s with
  | nil => cases week
  | cons c s =>
      cases week
      cases step

/-- Only letters have an upper case of their own. -/
theorem eq_of_upper {c d : Char} (plain : c.toNat < 'A'.toNat) (upper : d.toUpper = c) : d = c := by
  by_cases ascii : d.toNat < 128
  · have settled := Text.ascii_cases
      (P := fun d => d.toUpper.toNat < 'A'.toNat -> d = d.toUpper) (by decide) ascii
    rw [← upper] at plain ⊢
    exact settled plain
  · have beyond : ¬('a'.val ≤ d.val ∧ d.val ≤ 'z'.val) := by
      rintro ⟨_, small⟩
      exact ascii (Nat.lt_of_le_of_lt (UInt32.le_iff_toNat_le.mp small) (by decide))
    delta Char.toUpper at upper
    rwa [dif_neg beyond] at upper

/-- A mark that is no letter stands in a text as it is, in front of any offset. -/
theorem read_plain {c : Char} {items : List Item} {fields out : Fields} {s zone : Text}
    (plain : c.toNat < 'A'.toNat) (inside : Iso.startsOffset c = false)
    (offset : ∀ d ∈ zone.head?, Iso.startsOffset d = true)
    (read : read? (.mark c :: items) fields (s ++ zone) = some out) :
    ∃ rest, s = c :: rest ∧ read? items fields (rest ++ zone) = some out := by
  obtain ⟨d, rest, cut, upper, later⟩ := read_mark read
  have same := eq_of_upper plain upper
  subst same
  cases s with
  | nil =>
      rw [List.nil_append] at cut
      rw [offset d (by rw [cut]; rfl)] at inside
      cases inside
  | cons e s =>
      cases cut
      exact ⟨s, rfl, later⟩

/-- No number starts an offset or nothing at all. -/
theorem read_filled {item : Item} {items : List Item} {fields out : Fields} {s zone : Text}
    (number : item = .minute ∨ item = .second ∨ item = .fraction)
    (offset : ∀ d ∈ zone.head?, Iso.startsOffset d = true)
    (read : read? (item :: items) fields (s ++ zone) = some out) : s ≠ [] := by
  rintro rfl
  obtain ⟨next, rest, step, _⟩ := read_cons read
  cases zone with
  | nil => rcases number with rfl | rfl | rfl <;> cases step
  | cons d zone =>
      have mark := offset d rfl
      simp only [Iso.startsOffset, Bool.or_eq_true, decide_eq_true_eq] at mark
      rcases mark with (rfl | rfl) | rfl <;> rcases number with rfl | rfl | rfl <;> cases step

/-- What a layout has behind the seconds. -/
inductive IsEnding : List Item -> Prop where
  | whole : IsEnding []
  | fraction : IsEnding [.mark '.', .fraction]
  | zulu : IsEnding [.mark '.', .fraction, .mark 'Z']

theorem IsEnding.stops {items : List Item} (ends : IsEnding items) : Stops items := by
  have point : Text.isAsciiDigit '.' = false := by decide
  cases ends with
  | whole => exact stops_nil
  | fraction => exact stops_mark point _
  | zulu => exact stops_mark point _

/-- The time of day of a layout that has a date too. -/
inductive IsTime : List Item -> Prop where
  | toMinute : IsTime toMinute
  | toSecond {ending : List Item} (ends : IsEnding ending) :
      IsTime (toMinute ++ .mark ':' :: .second :: ending)

/-- A text with a date of a layout has the ISO date in its first ten characters. -/
theorem date_length {items : List Item} {fields out : Fields} {s : Text}
    (read : read? (date ++ items) fields s = some out) : Iso.dateLength s = 10 := by
  obtain ⟨year, ⟨_, yearShape, yearSize⟩, _, rfl, fromHyphen⟩ := read_run (by decide) read
  obtain ⟨_, afterHyphen, rfl, upper, fromMonth⟩ := read_mark fromHyphen
  have same := eq_of_upper (by decide) upper
  subst same
  have notWeek := read_month fromMonth
  obtain ⟨month, ⟨_, monthShape, monthSize⟩, _, rfl, fromMark⟩ := read_run (by decide) fromMonth
  obtain ⟨_, afterMonth, rfl, _, fromDay⟩ := read_mark fromMark
  obtain ⟨day, ⟨_, dayShape, daySize⟩, _, rfl, _⟩ := read_run (by decide) fromDay
  have four : ∀ shape ∈ shapes .year, shape.length = 4 := by decide
  have monthFilled : ∀ shape ∈ shapes .month, 1 ≤ shape.length := by decide
  have dayFilled : ∀ shape ∈ shapes .day, 1 ≤ shape.length := by decide
  have monthLong := monthFilled _ monthShape
  have dayLong := dayFilled _ dayShape
  apply Iso.date_length_hyphen (yearSize.trans (four _ yearShape)) _ notWeek
  simp only [List.length_append, List.length_cons]
  omega

/-- What a layout has between its date and its time of day. -/
inductive IsGap : Item -> Prop where
  | blanks : IsGap .blanks
  | letter : IsGap (.mark 'T')

theorem IsGap.stops {gap : Item} (gapped : IsGap gap) (items : List Item) :
    Stops (gap :: items) := by
  cases gapped with
  | blanks => exact stops_blanks items
  | letter => exact stops_mark (by decide) items

/-- A gap is one character where a digit comes next. -/
theorem read_gap {gap : Item} {items : List Item} {fields out : Fields} {c : Char} {s : Text}
    (gapped : IsGap gap) (digit : ∀ d ∈ s.head?, Text.isAsciiDigit d = true)
    (read : read? (gap :: items) fields (c :: s) = some out) :
    read? items fields s = some out := by
  obtain ⟨next, rest, step, later⟩ := read_cons read
  cases gapped with
  | blanks =>
      obtain ⟨after, passed, same⟩ := Option.map_eq_some_iff.mp step
      cases same
      obtain ⟨_, same⟩ := Option.ite_none_right_eq_some.mp passed
      have solid : ∀ d ∈ s.head?, Text.isBlank d = false :=
        fun d head => Text.digit_not_blank (digit d head)
      rw [Text.trim_start_of_head solid] at same
      cases same
      exact later
  | letter =>
      obtain ⟨_, same⟩ := Option.ite_none_right_eq_some.mp step
      cases same
      exact later

/-- Every layout has a date in front, but one that is of a time of day alone. -/
theorem all_cases {layout : List Item} (member : layout ∈ all) :
    layout = date ∨ layout = toSecond ∨
      ∃ gap time, IsGap gap ∧ IsTime time ∧ layout = date ++ gap :: time := by
  simp only [all, List.mem_cons, List.not_mem_nil, or_false] at member
  rcases member with rfl | rfl | rfl | rfl | rfl | rfl | rfl | rfl
  · exact .inr (.inr ⟨_, _, .blanks, .toSecond .fraction, rfl⟩)
  · exact .inr (.inr ⟨_, _, .blanks, .toSecond .whole, rfl⟩)
  · exact .inr (.inr ⟨_, _, .blanks, .toMinute, rfl⟩)
  · exact .inl rfl
  · exact .inr (.inr ⟨_, _, .letter, .toSecond .fraction, rfl⟩)
  · exact .inr (.inr ⟨_, _, .letter, .toSecond .whole, rfl⟩)
  · exact .inr (.inl rfl)
  · exact .inr (.inr ⟨_, _, .letter, .toSecond .zulu, rfl⟩)

end Layout
end Time
end SqlPipeline
