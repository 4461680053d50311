import Mathlib.Data.Nat.Factorization.Basic
import SqlPipeline.Json.Printer
import SqlPipeline.Proofs.Json.Grammar
import SqlPipeline.Proofs.Number.Nearest

/-!
Numbers as they are written. The digits of a number stand before and behind a point, or with an
exponent; both ways write a number of the grammar, and it denotes the number that was to be written.
-/

namespace SqlPipeline

open Text (AllDigits)

/-! The digits at both ends of a decimal. -/

namespace Text

theorem decimal_step {n : Nat} (great : 10 ≤ n) :
    decimal n = decimal (n / 10) ++ [Nat.digitChar (n % 10)] := by
  have whole : 0 < n / 10 := by omega
  have digit : n % 10 < 10 := Nat.mod_lt n (by decide)
  have joined := Nat.toDigits_append_toDigits (by decide) whole digit
  rw [Nat.div_add_mod, Nat.toDigits_of_lt_base digit] at joined
  exact joined.symm

theorem decimal_digit {n : Nat} (small : n < 10) : decimal n = [Nat.digitChar n] :=
  Nat.toDigits_of_lt_base small

/-- A positive number does not start with a zero. -/
theorem decimal_head {n : Nat} (positive : 0 < n) : (decimal n).head? ≠ some '0' := by
  induction n using Nat.strongRecOn with
  | _ n ih =>
      rcases Nat.lt_or_ge n 10 with small | great
      · rw [decimal_digit small, List.head?_cons, Ne, Option.some_inj, Nat.digitChar_eq_zero]
        omega
      · rw [decimal_step great, List.head?_append_of_ne_nil _ (decimal_ne_nil _)]
        exact ih (n / 10) (by omega) (by omega)

/-- A number that ten does not divide does not end with a zero. -/
theorem decimal_last {n : Nat} (last : n % 10 ≠ 0) : (decimal n).getLast? ≠ some '0' := by
  rcases Nat.lt_or_ge n 10 with small | great
  · rw [decimal_digit small, List.getLast?_singleton, Ne, Option.some_inj, Nat.digitChar_eq_zero]
    omega
  · rw [decimal_step great, List.getLast?_concat, Ne, Option.some_inj, Nat.digitChar_eq_zero]
    exact last

/-- Zeros before the digits of a number count for nothing. -/
theorem digits_behind_zeros (count n : Nat) :
    digits? (List.replicate count '0' ++ decimal n) = some n := by
  have all : AllDigits (List.replicate count '0' ++ decimal n) :=
    all_digits_append.mpr ⟨all_digits_replicate_zero count, decimal_digits n⟩
  rw [digits_eq all, Nat.ofDigitChars_append, Nat.ofDigitChars_replicate_zero, Nat.mul_zero, decimal,
    Nat.ofDigitChars_ten_toDigits]

end Text

namespace Binary64

/-- A positive number is one that ten does not divide, with zeros behind it. -/
theorem exists_core {n : Nat} (positive : 0 < n) :
    ∃ core count, core % 10 ≠ 0 ∧ n = core * 10 ^ count := by
  obtain ⟨count, core, indivisible, same⟩ :=
    Nat.exists_eq_pow_mul_and_not_dvd positive.ne' 10 (by decide)
  exact ⟨core, count, fun divisible => indivisible (Nat.dvd_of_mod_eq_zero divisible),
    same.trans (Nat.mul_comm _ _)⟩

theorem strip_zeros_decimal {n : Nat} (last : n % 10 ≠ 0) (count : Nat) :
    stripZeros (Text.decimal (n * 10 ^ count)) = Text.decimal n := by
  have positive : 0 < n := by omega
  have ends : ∀ c ∈ (Text.decimal n).reverse.head?, decide (c = '0') = false := by
    intro c member
    rw [List.head?_reverse] at member
    rw [decide_eq_false_iff_not]
    rintro rfl
    exact Text.decimal_last last member
  have zeros : ∀ c ∈ List.replicate count '0', decide (c = '0') = true := by
    intro c member
    rw [List.eq_of_mem_replicate member]
    rfl
  have stripped : ((Text.decimal (n * 10 ^ count)).reverse.dropWhile (· = '0')).reverse =
      Text.decimal n := by
    rw [decimal_scaled positive, List.reverse_append, List.reverse_replicate,
      Text.drop_while_run _ zeros ends, List.reverse_reverse]
  unfold stripZeros
  rw [stripped]
  split
  · rename_i empty
    exact absurd empty (Text.decimal_ne_nil n)
  · rfl

end Binary64

namespace Json

/-- A number with a sign of its own. -/
def NumberText.signed (number : NumberText) (negative : Bool) : NumberText :=
  { number with negative }

/-- A text is a number of the grammar without a sign, and denotes `coefficient * 10 ^ exponent`, or
that with a minus when it is given one. -/
def IsReal (s : Text) (coefficient : Nat) (exponent : Int) : Prop :=
  ∃ number : NumberText, number.IsValid ∧ number.magnitude = s ∧
    ∀ negative, (number.signed negative).node = .real (Binary64.ofDecimal negative coefficient exponent)

/-- Digits around a point may have zeros behind them. -/
theorem digits_denote {whole fraction : Text} {coefficient count : Nat} {exponent scale : Int}
    (worth : Text.digits? (whole ++ fraction) = some (coefficient * 10 ^ count))
    (placed : exponent - fraction.length = scale - count) (negative : Bool) :
    Numeral.Scientific.toBinary64 negative ⟨whole, fraction, exponent⟩ =
      Binary64.ofDecimal negative coefficient scale := by
  rw [Numeral.Scientific.toBinary64, Numeral.Scientific.coefficient, Numeral.Scientific.scale, worth,
    placed]
  exact Binary64.of_decimal_scaled negative coefficient count scale

theorem node_of_exponent {number : NumberText} {exponent : ExponentText}
    (written : number.exponent? = some exponent) :
    number.node = .real (Numeral.Scientific.toBinary64 number.negative
      ⟨number.whole, number.fraction, exponent.value⟩) := by
  rw [NumberText.node, written]
  cases number.fraction with
  | nil => rfl
  | cons c later => rfl

/-- Digits with a point among them or before them. -/
theorem pointed_real {whole fraction : Text} {coefficient count : Nat} {scale : Int}
    (nonempty : whole ≠ []) (digits : AllDigits whole) (plain : whole.head? = some '0' -> whole = ['0'])
    (broken : fraction ≠ []) (rest : AllDigits fraction)
    (worth : Text.digits? (whole ++ fraction) = some (coefficient * 10 ^ count))
    (placed : -(fraction.length : Int) = scale - count) :
    IsReal (whole ++ '.' :: fraction) coefficient scale := by
  refine ⟨⟨false, whole, fraction, none⟩, ⟨nonempty, digits, plain, rest, nofun, ?_⟩, ?_, ?_⟩
  · exact fun none _ => absurd none broken
  · simp [NumberText.magnitude, NumberText.fractionText, NumberText.exponentText, broken]
  · intro negative
    have behind : 0 - (fraction.length : Int) = scale - count := by omega
    rw [← digits_denote worth behind]
    cases fraction with
    | nil => exact absurd rfl broken
    | cons c later => rfl

section

variable {n : Nat} {leading : Int}

/-- The exponent of the last digit, from that of the first one. -/
def lastExponent (n : Nat) (leading : Int) : Int :=
  leading - ((Text.decimal n).length - 1 : Nat)

theorem decimal_length_pos (n : Nat) : 0 < (Text.decimal n).length :=
  List.length_pos_iff.mpr (Text.decimal_ne_nil n)

/-- Digits behind the point, with zeros between them. -/
theorem small_real (negative : leading < 0) :
    IsReal (Binary64.positional (Text.decimal n) leading) n (lastExponent n leading) := by
  have written := decimal_length_pos n
  have worth : Text.digits? (['0'] ++ (List.replicate (-leading - 1).toNat '0' ++ Text.decimal n)) =
      some (n * 10 ^ 0) := by
    rw [← List.append_assoc, ← List.replicate_one, List.replicate_append_replicate,
      Text.digits_behind_zeros, Nat.pow_zero, Nat.mul_one]
  have all : AllDigits (List.replicate (-leading - 1).toNat '0' ++ Text.decimal n) :=
    Text.all_digits_append.mpr ⟨Text.all_digits_replicate_zero _, Text.decimal_digits n⟩
  have broken : List.replicate (-leading - 1).toNat '0' ++ Text.decimal n ≠ [] := by
    simp [Text.decimal_ne_nil]
  have placed : -((List.replicate (-leading - 1).toNat '0' ++ Text.decimal n).length : Int) =
      lastExponent n leading - (0 : Nat) := by
    simp only [lastExponent, List.length_append, List.length_replicate]
    omega
  have real := pointed_real (List.cons_ne_nil '0' []) (Text.all_digits_replicate_zero 1) (fun _ => rfl)
    broken all worth placed
  rw [Binary64.positional, if_pos negative]
  exact real

/-- Digits on both sides of the point. -/
theorem split_real (positive : 0 < n) (nonnegative : 0 ≤ leading)
    (long : leading.toNat + 1 < (Text.decimal n).length) :
    IsReal (Binary64.positional (Text.decimal n) leading) n (lastExponent n leading) := by
  have digits := Text.decimal_digits n
  have unpadded : List.rightpad (leading.toNat + 1) '0' (Text.decimal n) = Text.decimal n := by
    rw [List.rightpad, Nat.sub_eq_zero_of_le (by omega), List.replicate_zero, List.append_nil]
  have head : ((Text.decimal n).take (leading.toNat + 1)).head? ≠ some '0' := by
    rw [List.head?_take, if_neg (by omega)]
    exact Text.decimal_head positive
  have whole : (Text.decimal n).take (leading.toNat + 1) ≠ [] := by
    simp [Text.decimal_ne_nil]
  have broken : (Text.decimal n).drop (leading.toNat + 1) ≠ [] := by
    rw [Ne, List.drop_eq_nil_iff]
    omega
  have worth : Text.digits? ((Text.decimal n).take (leading.toNat + 1) ++
      (Text.decimal n).drop (leading.toNat + 1)) = some (n * 10 ^ 0) := by
    rw [List.take_append_drop, Text.digits_decimal, Nat.pow_zero, Nat.mul_one]
  have placed : -(((Text.decimal n).drop (leading.toNat + 1)).length : Int) =
      lastExponent n leading - (0 : Nat) := by
    rw [lastExponent, List.length_drop]
    omega
  rw [Binary64.positional, if_neg (by omega), unpadded]
  dsimp only
  rw [if_neg (by rwa [List.isEmpty_iff])]
  exact pointed_real whole (fun c member => digits c (List.mem_of_mem_take member))
    (fun zero => absurd zero head) broken (fun c member => digits c (List.mem_of_mem_drop member))
    worth placed

/-- Digits before the point, with zeros behind them up to it. -/
theorem great_real (positive : 0 < n) (nonnegative : 0 ≤ leading)
    (short : (Text.decimal n).length ≤ leading.toNat + 1) :
    IsReal (Binary64.positional (Text.decimal n) leading) n (lastExponent n leading) := by
  have digits : AllDigits (List.rightpad (leading.toNat + 1) '0' (Text.decimal n)) :=
    Text.all_digits_append.mpr ⟨Text.decimal_digits n, Text.all_digits_replicate_zero _⟩
  have length :
      (List.rightpad (leading.toNat + 1) '0' (Text.decimal n)).length = leading.toNat + 1 := by
    rw [List.length_rightpad]
    omega
  have whole : List.rightpad (leading.toNat + 1) '0' (Text.decimal n) ≠ [] := by
    rw [← List.length_pos_iff, length]
    exact Nat.succ_pos _
  have head : (List.rightpad (leading.toNat + 1) '0' (Text.decimal n)).head? ≠ some '0' := by
    rw [List.rightpad, List.head?_append_of_ne_nil _ (Text.decimal_ne_nil n)]
    exact Text.decimal_head positive
  have worth : Text.digits? (List.rightpad (leading.toNat + 1) '0' (Text.decimal n) ++ ['0']) =
      some (n * 10 ^ (leading.toNat + 1 - (Text.decimal n).length + 1)) := by
    have zero : leading.toNat + 1 - (Text.decimal n).length + 1 =
        leading.toNat + 2 - (Text.decimal n).length := by omega
    have padded : List.rightpad (leading.toNat + 1) '0' (Text.decimal n) ++ ['0'] =
        List.rightpad (leading.toNat + 2) '0' (Text.decimal n) := by
      rw [List.rightpad, List.rightpad, List.append_assoc, ← List.replicate_succ', zero]
    rw [padded, Text.digits_pad_right (Text.decimal_digits n) (Text.digits_decimal n), zero,
      Nat.mul_comm]
  have placed : -((['0'] : Text).length : Int) =
      lastExponent n leading - (leading.toNat + 1 - (Text.decimal n).length + 1 : Nat) := by
    have written := decimal_length_pos n
    rw [lastExponent, List.length_singleton]
    omega
  rw [Binary64.positional, if_neg (by omega)]
  dsimp only
  rw [List.take_of_length_le (Nat.le_of_eq length), List.drop_of_length_le (Nat.le_of_eq length),
    if_pos List.isEmpty_nil]
  exact pointed_real whole digits (fun zero => absurd zero head) (List.cons_ne_nil '0' [])
    (Text.all_digits_replicate_zero 1) worth placed

/-- The exponent as it is written, always with a sign. -/
def exponentOf (width : Nat) (leading : Int) : ExponentText :=
  ⟨'e', [if leading < 0 then '-' else '+'], Text.padded width leading.natAbs⟩

theorem exponent_valid (width : Nat) (leading : Int) : (exponentOf width leading).IsValid := by
  refine ⟨.inl rfl, ?_, Text.padded_ne_nil width _, Text.padded_digits width _⟩
  rw [exponentOf]
  by_cases negative : leading < 0
  · exact .inr (.inr (by rw [if_pos negative]))
  · exact .inr (.inl (by rw [if_neg negative]))

theorem exponent_value (width : Nat) (leading : Int) : (exponentOf width leading).value = leading := by
  rw [ExponentText.value, exponentOf, Text.digits_padded, Option.getD_some]
  by_cases negative : leading < 0
  · simp only [negative, if_true, Numeral.signed, decide_true]
    omega
  · simp only [negative, if_false, Numeral.signed, List.cons.injEq, Char.reduceEq, false_and,
      decide_false, Bool.false_eq_true]
    omega

/-- One digit before the point, and an exponent. -/
theorem scientific_real (width : Nat) (positive : 0 < n) :
    IsReal (Binary64.scientific width (Text.decimal n) leading) n (lastExponent n leading) := by
  have digits := Text.decimal_digits n
  have written := decimal_length_pos n
  have whole : (Text.decimal n).take 1 ≠ [] := by
    simp [Text.decimal_ne_nil]
  have head : ((Text.decimal n).take 1).head? ≠ some '0' := by
    rw [List.head?_take, if_neg (by decide)]
    exact Text.decimal_head positive
  have worth : Text.digits? ((Text.decimal n).take 1 ++ (Text.decimal n).drop 1) =
      some (n * 10 ^ 0) := by
    rw [List.take_append_drop, Text.digits_decimal, Nat.pow_zero, Nat.mul_one]
  have placed : (exponentOf width leading).value - ((Text.decimal n).drop 1).length =
      lastExponent n leading - (0 : Nat) := by
    rw [exponent_value, lastExponent, List.length_drop]
    omega
  refine ⟨⟨false, (Text.decimal n).take 1, (Text.decimal n).drop 1, some (exponentOf width leading)⟩,
    ⟨whole, fun c member => digits c (List.mem_of_mem_take member), fun zero => absurd zero head,
      fun c member => digits c (List.mem_of_mem_drop member), ?_, nofun⟩, ?_, ?_⟩
  · rintro exponent same
    cases same
    exact exponent_valid width leading
  · have single : (Text.decimal n).drop 1 = [] ↔ (Text.decimal n).length ≤ 1 := List.drop_eq_nil_iff
    simp only [NumberText.magnitude, NumberText.fractionText, NumberText.exponentText, single,
      Binary64.scientific, ExponentText.text, exponentOf, List.append_assoc]
  · intro negative
    exact (node_of_exponent rfl).trans (congrArg Node.real (digits_denote worth placed negative))

theorem positional_real (positive : 0 < n) :
    IsReal (Binary64.positional (Text.decimal n) leading) n (lastExponent n leading) := by
  rcases Int.lt_or_le leading 0 with small | great
  · exact small_real small
  · rcases Nat.lt_or_ge (leading.toNat + 1) (Text.decimal n).length with long | short
    · exact split_real positive great long
    · exact great_real positive great short

theorem shortest_pos {rank : Nat} (positive : 0 < rank) (finite : rank < Binary64.ranks) :
    0 < (Binary64.shortest rank).coefficient := by
  have read := Binary64.shortest_reads finite false
  by_contra none
  rw [Nat.eq_zero_of_not_pos none, Binary64.of_decimal_eq, if_pos (.inl rfl)] at read
  exact positive.ne (Binary64.of_rank_injective finite read)

/-- The text of a magnitude that is not zero is a number of the grammar that denotes it. -/
theorem magnitude_real (layout : Binary64.Layout) {rank : Nat} (positive : 0 < rank)
    (finite : rank < Binary64.ranks) :
    ∃ coefficient exponent, IsReal (layout.magnitude rank) coefficient exponent ∧
      ∀ negative, Binary64.ofDecimal negative coefficient exponent = Binary64.ofRank negative rank := by
  obtain ⟨core, count, last, same⟩ := Binary64.exists_core (shortest_pos positive finite)
  have written := decimal_length_pos core
  have whole : 0 < core := by omega
  refine ⟨core, (Binary64.shortest rank).exponent + count, ?_, fun negative => ?_⟩
  · have exponent : lastExponent core ((Binary64.shortest rank).exponent +
        ((Text.decimal (core * 10 ^ count)).length - 1 : Nat)) =
        (Binary64.shortest rank).exponent + count := by
      rw [lastExponent, Binary64.decimal_scaled whole, List.length_append, List.length_replicate]
      omega
    rw [Binary64.Layout.magnitude, same, Binary64.strip_zeros_decimal last, ← exponent]
    split
    · exact positional_real whole
    · exact scientific_real layout.exponentWidth whole
  · rw [← Binary64.shortest_reads finite negative, same, ← Binary64.of_decimal_scaled _ core count,
      Int.add_sub_cancel]

theorem zero_real : IsReal (realLayout.magnitude 0) 0 0 := by
  have written : realLayout.magnitude 0 = ['0'] ++ ['.', '0'] := by decide
  have zeros := Text.all_digits_replicate_zero 1
  have placed : -((['0'] : Text).length : Int) = 0 - (1 : Nat) := rfl
  rw [written]
  exact pointed_real (List.cons_ne_nil '0' []) zeros (fun _ => rfl) (List.cons_ne_nil '0' []) zeros
    (by decide : Text.digits? (['0'] ++ ['0']) = some (0 * 10 ^ 1)) placed

/-- What is written of a finite number denotes it, the sign of a zero included. -/
theorem finite_denotes (negative : Bool) (rank : Fin (2047 * 2 ^ 52)) (room : Nat) :
    Denotes room (realLayout.text (.finite negative rank)) (.real (.finite negative rank)) := by
  have real : ∃ coefficient exponent, IsReal (realLayout.magnitude rank) coefficient exponent ∧
      ∀ negative, Binary64.ofDecimal negative coefficient exponent =
        Binary64.ofRank negative rank := by
    rcases Nat.eq_zero_or_pos rank.val with zero | positive
    · rw [zero]
      exact ⟨0, 0, zero_real, fun negative => rfl⟩
    · exact magnitude_real realLayout positive rank.isLt
  obtain ⟨coefficient, exponent, ⟨number, valid, same, denoted⟩, rounded⟩ := real
  have whole : Binary64.ofRank negative rank = .finite negative rank := dif_pos rank.isLt
  have text : (number.signed negative).text = realLayout.text (.finite negative rank) := by
    rw [Binary64.Layout.text, ← same]
    cases negative with
    | true => rfl
    | false => rfl
  rw [← text, ← whole, ← rounded negative, ← denoted negative]
  exact .number ⟨valid.nonempty, valid.whole, valid.plain, valid.fraction, valid.exponent, valid.short⟩

end

end Json
end SqlPipeline
