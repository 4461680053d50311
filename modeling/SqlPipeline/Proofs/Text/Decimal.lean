import SqlPipeline.Text.Blank
import SqlPipeline.Text.Digit

/-!
Decimal digits read back. A run of ASCII digits is worth what its digits are worth one by one, so
that a number written with any number of leading zeros is read as itself, and zeros behind the
digits scale it. What holds of every ASCII digit is checked once for the ten of them.
-/

namespace SqlPipeline
namespace Text

/-- A property of the characters of ASCII is settled by their codes. -/
theorem ascii_cases {P : Char -> Prop} (holds : ∀ code : Fin 128, P (Char.ofNat code))
    {c : Char} (ascii : c.toNat < 128) : P c := by
  have found := holds ⟨c.toNat, ascii⟩
  rwa [Char.ofNat_toNat] at found

def AllDigits (s : Text) : Prop :=
  ∀ c ∈ s, isAsciiDigit c = true

theorem all_digits_append {s t : Text} :
    AllDigits (s ++ t) ↔ AllDigits s ∧ AllDigits t := by
  simp only [AllDigits, List.mem_append]
  constructor
  · intro digits
    exact ⟨fun c member => digits c (.inl member), fun c member => digits c (.inr member)⟩
  · rintro ⟨left, right⟩ c (member | member)
    · exact left c member
    · exact right c member

theorem all_digits_replicate_zero (count : Nat) : AllDigits (List.replicate count '0') := by
  intro c member
  rw [List.eq_of_mem_replicate member]
  decide

theorem digit_code_lt {c : Char} (digit : isAsciiDigit c = true) : c.toNat < 128 :=
  Nat.lt_of_le_of_lt (Char.isDigit_iff_toNat.mp digit).2 (by decide)

theorem exists_digit_char {c : Char} (digit : isAsciiDigit c = true) :
    ∃ d : Fin 10, c = Nat.digitChar d := by
  have settled := ascii_cases
    (P := fun c => isAsciiDigit c = true -> ∃ d : Fin 10, c = Nat.digitChar d) (by decide)
    (digit_code_lt digit)
  exact settled digit

/-- A property of the ten digits holds of every digit character. -/
theorem digit_cases {P : Char -> Prop} (holds : ∀ d : Fin 10, P (Nat.digitChar d))
    {c : Char} (digit : isAsciiDigit c = true) : P c := by
  obtain ⟨d, rfl⟩ := exists_digit_char digit
  exact holds d

theorem digit_not_blank {c : Char} (digit : isAsciiDigit c = true) : isBlank c = false :=
  digit_cases (P := fun c => isBlank c = false) (by decide) digit

theorem digit_is_digit {c : Char} (digit : isAsciiDigit c = true) : isDigit c = true :=
  digit_cases (P := fun c => isDigit c = true) (by decide) digit

theorem digit_worth {c : Char} (digit : isAsciiDigit c = true) :
    digit? c = some (c.toNat - '0'.toNat) :=
  digit_cases (P := fun c => digit? c = some (c.toNat - '0'.toNat)) (by decide) digit

theorem digits_head {s : Text} (digits : AllDigits s) (notNil : s ≠ []) (rest : Text) :
    ∀ c ∈ (s ++ rest).head?, isAsciiDigit c = true := by
  intro c member
  cases s with
  | nil => exact absurd rfl notNil
  | cons d tail =>
      have same : d = c := Option.some.inj member
      exact digits c (by simp [same])

theorem digits_last {s : Text} (digits : AllDigits s) (notNil : s ≠ []) (rest : Text) :
    ∀ c ∈ (rest ++ s).getLast?, isAsciiDigit c = true := by
  intro c member
  rw [List.getLast?_append, List.getLast?_eq_some_getLast notNil] at member
  have same : s.getLast notNil = c := Option.some.inj member
  rw [← same]
  exact digits _ (List.getLast_mem notNil)

theorem digits_from_eq {s : Text} (digits : AllDigits s) (value : Nat) :
    digitsFrom? value s = some (Nat.ofDigitChars 10 s value) := by
  induction s generalizing value with
  | nil => rfl
  | cons c rest ih =>
      have head := digits c (by simp)
      have tail : AllDigits rest := fun d member => digits d (by simp [member])
      simp only [digitsFrom?, digit_worth head, Nat.ofDigitChars_cons]
      exact ih tail _

theorem digits_eq {s : Text} (digits : AllDigits s) :
    digits? s = some (Nat.ofDigitChars 10 s 0) :=
  digits_from_eq digits 0

theorem decimal_digits (n : Nat) : AllDigits (decimal n) := by
  intro c member
  exact Nat.isDigit_of_mem_toDigits (by decide) (by decide) member

theorem decimal_ne_nil (n : Nat) : decimal n ≠ [] :=
  Nat.toDigits_ne_nil

theorem padded_digits (width n : Nat) : AllDigits (padded width n) :=
  all_digits_append.mpr ⟨all_digits_replicate_zero _, decimal_digits n⟩

theorem padded_ne_nil (width n : Nat) : padded width n ≠ [] := by
  simp [padded, List.leftpad, decimal_ne_nil]

theorem digits_decimal (n : Nat) : digits? (decimal n) = some n := by
  rw [digits_eq (decimal_digits n), decimal, Nat.ofDigitChars_ten_toDigits]

theorem digits_padded (width n : Nat) : digits? (padded width n) = some n := by
  rw [digits_eq (padded_digits width n), padded, List.leftpad, Nat.ofDigitChars_append,
    Nat.ofDigitChars_replicate_zero, Nat.mul_zero, decimal, Nat.ofDigitChars_ten_toDigits]

/-- Zeros behind the digits scale a number by powers of ten. -/
theorem digits_pad_right {s : Text} {n : Nat} (digits : AllDigits s) (worth : digits? s = some n)
    (width : Nat) : digits? (List.rightpad width '0' s) = some (10 ^ (width - s.length) * n) := by
  rw [digits_eq digits, Option.some.injEq] at worth
  have padded : AllDigits (List.rightpad width '0' s) :=
    all_digits_append.mpr ⟨digits, all_digits_replicate_zero _⟩
  rw [digits_eq padded, List.rightpad, Nat.ofDigitChars_append, worth,
    Nat.ofDigitChars_replicate_zero]

theorem length_decimal_le {n width : Nat} (positive : 0 < width) :
    (decimal n).length ≤ width ↔ n < 10 ^ width :=
  Nat.length_toDigits_le_iff (by decide) positive

theorem length_padded {width n : Nat} (positive : 0 < width) (below : n < 10 ^ width) :
    (padded width n).length = width := by
  have short := (length_decimal_le positive).mpr below
  rw [padded, List.length_leftpad]
  omega

end Text
end SqlPipeline
