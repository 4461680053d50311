import SqlPipeline.Proofs.Text.Decimal

/-!
The order of texts, which is that of their first difference. Numbers of a fixed width with a text
behind them are ordered by the numbers first and then by what stands behind.
-/

namespace SqlPipeline
namespace Text

/-- Two places of a number are compared from the higher one on. -/
theorem places_lt_iff {base high low high' low' : Nat} (inside : low < base) (inside' : low' < base) :
    base * high + low < base * high' + low' ↔ high < high' ∨ high = high' ∧ low < low' := by
  rcases Nat.lt_trichotomy high high' with lower | rfl | upper
  · have passed : base * (high + 1) ≤ base * high' := Nat.mul_le_mul_left base lower
    rw [Nat.mul_succ] at passed
    omega
  · omega
  · have passed : base * (high' + 1) ≤ base * high := Nat.mul_le_mul_left base upper
    rw [Nat.mul_succ] at passed
    omega

theorem places_eq_iff {base high low high' low' : Nat} (inside : low < base) (inside' : low' < base) :
    base * high + low = base * high' + low' ↔ high = high' ∧ low = low' := by
  have less : base * high + low < base * high' + low' ↔ _ := places_lt_iff inside inside'
  have more : base * high' + low' < base * high + low ↔ _ := places_lt_iff inside' inside
  omega

/-- What a run of digits is worth. -/
def worth (digits : Text) : Nat :=
  Nat.ofDigitChars 10 digits 0

theorem worth_padded (width n : Nat) : worth (padded width n) = n := by
  have read := digits_padded width n
  rw [digits_eq (padded_digits width n)] at read
  exact Option.some.inj read

theorem worth_cons (c : Char) (digits : Text) :
    worth (c :: digits) = 10 ^ digits.length * (c.toNat - '0'.toNat) + worth digits := by
  rw [worth, Nat.ofDigitChars_cons, Nat.ofDigitChars_eq_ofDigitChars_zero, Nat.mul_zero, Nat.zero_add]
  rfl

theorem worth_lt {digits : Text} (all : AllDigits digits) : worth digits < 10 ^ digits.length := by
  induction digits with
  | nil => decide
  | cons c digits ih =>
      have nine := (Char.isDigit_iff_toNat.mp (all c List.mem_cons_self)).2
      have rest := ih fun d member => all d (List.mem_cons_of_mem c member)
      have place : 10 ^ digits.length * (c.toNat - '0'.toNat) ≤ 10 ^ digits.length * 9 :=
        Nat.mul_le_mul_left _ (Nat.sub_le_sub_right nine _)
      rw [worth_cons, List.length_cons, Nat.pow_succ]
      omega

/-- Runs of as many digits are ordered by what they are worth, and what stands behind them counts
when they are worth the same. -/
theorem digits_append_lt_iff {digits digits' : Text} (all : AllDigits digits)
    (all' : AllDigits digits') (same : digits.length = digits'.length) (s t : Text) :
    digits ++ s < digits' ++ t ↔
      worth digits < worth digits' ∨ worth digits = worth digits' ∧ s < t := by
  induction digits generalizing digits' with
  | nil =>
      have empty : digits' = [] := List.eq_nil_of_length_eq_zero same.symm
      subst empty
      simp
  | cons c digits ih =>
      cases digits' with
      | nil => cases same
      | cons d digits' =>
          have size : digits.length = digits'.length := Nat.succ.inj same
          have rest : AllDigits digits := fun e member => all e (List.mem_cons_of_mem c member)
          have rest' : AllDigits digits' := fun e member => all' e (List.mem_cons_of_mem d member)
          have head := Char.isDigit_iff_toNat.mp (all c List.mem_cons_self)
          have head' := Char.isDigit_iff_toNat.mp (all' d List.mem_cons_self)
          have below := worth_lt rest
          have below' := worth_lt rest'
          rw [← size] at below'
          have codes : c < d ↔ c.toNat < d.toNat := Iff.rfl
          have less : c < d ↔ c.toNat - '0'.toNat < d.toNat - '0'.toNat := by
            rw [codes]
            omega
          have equal : c = d ↔ c.toNat - '0'.toNat = d.toNat - '0'.toNat := by
            rw [← Char.toNat_inj]
            omega
          rw [worth_cons, worth_cons, ← size, places_lt_iff below below', places_eq_iff below below',
            List.cons_append, List.cons_append, List.cons_lt_cons_iff, ih rest rest' size, less, equal]
          simp only [and_or_left, or_assoc, and_assoc]

/-- Numbers of one width come first in the order of the texts that they begin. -/
theorem padded_append_lt_iff {width n m : Nat} (positive : 0 < width) (below : n < 10 ^ width)
    (below' : m < 10 ^ width) (s t : Text) :
    padded width n ++ s < padded width m ++ t ↔ n < m ∨ n = m ∧ s < t := by
  have same : (padded width n).length = (padded width m).length := by
    rw [length_padded positive below, length_padded positive below']
  rw [digits_append_lt_iff (padded_digits width n) (padded_digits width m) same, worth_padded,
    worth_padded]

end Text
end SqlPipeline
