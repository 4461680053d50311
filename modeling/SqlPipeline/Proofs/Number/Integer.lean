import SqlPipeline.Number.Numeral
import SqlPipeline.Proofs.Text.Decimal
import SqlPipeline.Proofs.Text.Cut

/-!
The decimal text of an integer reads back as that integer, unless it is too long to be written at
all. A minus sign and digits are plain ASCII without blanks and without grouping, so that nothing is
cut off or left out before the digits are counted.
-/

namespace SqlPipeline
namespace Numeral

open Text (AllDigits)

theorem sign_of_unsigned {s : Text} (plus : '+' ∉ s) (minus : '-' ∉ s) : sign s = (false, s) := by
  unfold sign
  split
  · exact absurd (by simp) plus
  · exact absurd (by simp) minus
  · rfl

theorem sign_of_digits {s : Text} (digits : AllDigits s) : sign s = (false, s) :=
  sign_of_unsigned (fun member => absurd (digits '+' member) (by decide))
    (fun member => absurd (digits '-' member) (by decide))

theorem ungroup_from_of_digits {s : Text} (digits : AllDigits s) (digitBefore : Bool) :
    ungroupFrom? digitBefore s = some s := by
  induction s generalizing digitBefore with
  | nil => rfl
  | cons c rest ih =>
      have head : c ≠ '_' := by
        rintro rfl
        exact absurd (digits '_' (by simp)) (by decide)
      have tail : AllDigits rest := fun d member => digits d (by simp [member])
      rw [ungroupFrom?, ih tail, Option.map_some]
      exact head

/-- A character that stands in the text of an integer. -/
def isIntegerChar (c : Char) : Bool :=
  c = '-' || Text.isAsciiDigit c

theorem integer_char_cases {P : Char -> Prop} (minus : P '-')
    (digit : ∀ d : Fin 10, P (Nat.digitChar d)) {c : Char} (found : isIntegerChar c = true) :
    P c := by
  simp only [isIntegerChar, Bool.or_eq_true, decide_eq_true_eq] at found
  rcases found with rfl | isDigit
  · exact minus
  · exact Text.digit_cases digit isDigit

theorem integer_text_chars (n : Int) : ∀ c ∈ Text.ofInt n, isIntegerChar c = true := by
  intro c member
  cases n with
  | ofNat n => simp [isIntegerChar, Text.decimal_digits n c member]
  | negSucc n =>
      rcases List.mem_cons.mp member with rfl | member
      · rfl
      · simp [isIntegerChar, Text.decimal_digits (n + 1) c member]

/-- The numbers that 64 bits hold are far from too long to be written. -/
theorem lt_longest {n : Int} (small : n.natAbs < 10 ^ 20) : n.natAbs < 10 ^ longest :=
  Nat.lt_of_lt_of_le small (Nat.pow_le_pow_right (by decide) (by decide))

theorem integer_text_ne_nil (n : Int) : Text.ofInt n ≠ [] := by
  cases n with
  | ofNat n => exact Text.decimal_ne_nil n
  | negSucc n => exact List.cons_ne_nil _ _

theorem trim_integer_text (n : Int) : Text.trim (Text.ofInt n) = Text.ofInt n := by
  apply Text.strip_of_all
  intro c member
  exact integer_char_cases (P := fun c => Text.isBlank c = false) (by decide) (by decide)
    (integer_text_chars n c member)

theorem plain_integer_text (n : Int) : plain (Text.ofInt n) = Text.ofInt n := by
  have same : (Text.ofInt n).map plainChar = Text.ofInt n := by
    refine (List.map_congr_left ?_).trans (List.map_id' _)
    intro c member
    exact integer_char_cases (P := fun c => plainChar c = c) (by decide) (by decide)
      (integer_text_chars n c member)
  rw [plain, same]
  apply Text.strip_of_all
  intro c member
  exact integer_char_cases (P := fun c => isSpace c = false) (by decide) (by decide)
    (integer_text_chars n c member)

/-- Unsigned digits read as the number they are worth, if they are not too many. -/
theorem integer_of_digits {digits : Text} {n : Nat} (all : AllDigits digits)
    (nonempty : digits ≠ []) (worth : Text.digits? digits = some n)
    (short : digits.length ≤ longest) (negative : Bool) {s : Text}
    (signs : sign s = (negative, digits)) :
    integerOfPlain? s = some (signed negative n) := by
  have ungrouped : ungroup? digits = some digits := ungroup_from_of_digits all false
  simp [integerOfPlain?, signs, ungrouped, nonempty, worth, Nat.not_lt.mpr short]

theorem integer_of_text {n : Int} (short : n.natAbs < 10 ^ longest) :
    integer? (Text.ofInt n) = some n := by
  rw [integer?, plain_integer_text]
  cases n with
  | ofNat n =>
      exact integer_of_digits (Text.decimal_digits n) (Text.decimal_ne_nil n)
        (Text.digits_decimal n) ((Text.length_decimal_le (by decide)).mpr short) false
        (sign_of_digits (Text.decimal_digits n))
  | negSucc n =>
      exact integer_of_digits (Text.decimal_digits (n + 1)) (Text.decimal_ne_nil _)
        (Text.digits_decimal (n + 1)) ((Text.length_decimal_le (by decide)).mpr short) true rfl

end Numeral
end SqlPipeline
