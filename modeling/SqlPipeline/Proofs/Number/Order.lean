import SqlPipeline.Proofs.Number.Overflow

/-!
The order of binary numbers. Rounding to the nearest keeps the order of what is rounded, so that a
greater amount has no lesser rank; and since an amount in whole units is rounded to itself, ranks are in
the order of their magnitudes.
-/

namespace SqlPipeline
namespace Binary64

/-- An amount divided and rounded to the nearest, ties going to the even quotient. -/
def rounded (spacing amount : Nat) : Nat :=
  amount / spacing + carry spacing (amount / spacing) (amount % spacing)

theorem carry_mono (spacing quotient : Nat) {remainder greater : Nat} (le : remainder ≤ greater) :
    carry spacing quotient remainder ≤ carry spacing quotient greater := by
  unfold carry
  split
  · rename_i taken
    simp only [Bool.or_eq_true, Bool.and_eq_true, decide_eq_true_eq] at taken ⊢
    split <;> omega
  · exact Nat.zero_le _

theorem rounded_mono (spacing : Nat) {amount greater : Nat} (le : amount ≤ greater) :
    rounded spacing amount ≤ rounded spacing greater := by
  have one := carry_le spacing (amount / spacing) (amount % spacing)
  have quotients : amount / spacing ≤ greater / spacing := Nat.div_le_div_right le
  rcases Nat.eq_or_lt_of_le quotients with same | less
  · have remainders : amount % spacing ≤ greater % spacing := by
      have first := Nat.div_add_mod amount spacing
      have second := Nat.div_add_mod greater spacing
      rw [same] at first
      omega
    have carries := carry_mono spacing (greater / spacing) remainders
    unfold rounded
    rw [same]
    omega
  · unfold rounded
    omega

theorem nearest_rank_eq (amount : Nat) :
    nearestRank amount 1 = (amount.log2 - 52) * 2 ^ 52 + rounded (2 ^ (amount.log2 - 52)) amount := by
  rw [nearest_rank_carry rfl, Nat.add_assoc]
  rfl

theorem log_mono {n greater : Nat} (le : n ≤ greater) : n.log2 ≤ greater.log2 := by
  rcases Nat.eq_zero_or_pos n with rfl | positive
  · rw [Nat.log2_zero]
    exact Nat.zero_le _
  · have nonzero : n ≠ 0 := Nat.ne_of_gt positive
    apply (Nat.le_log2 (by omega)).mpr
    exact Nat.le_trans (Nat.log2_self_le nonzero) le

theorem nearest_rank_mono {amount greater : Nat} (le : amount ≤ greater) :
    nearestRank amount 1 ≤ nearestRank greater 1 := by
  have levels : amount.log2 - 52 ≤ greater.log2 - 52 := Nat.sub_le_sub_right (log_mono le) 52
  rw [nearest_rank_eq, nearest_rank_eq]
  rcases Nat.eq_or_lt_of_le levels with same | less
  · have ranks := rounded_mono (2 ^ (greater.log2 - 52)) le
    rw [same]
    exact Nat.add_le_add_left ranks _
  · -- From one level to the next the 53 digits of the lower one go up to `2 ^ 53` at most.
    have least := (digits_of_level (show greater.log2 = greater.log2 - 52 + 52 by omega)).1
    have below : amount < 2 ^ (amount.log2 - 52 + 53) :=
      Nat.lt_of_lt_of_le Nat.lt_log2_self (Nat.pow_le_pow_right (by decide) (by omega))
    rw [Nat.pow_add, Nat.mul_comm] at below
    have most := (Nat.div_lt_iff_lt_mul (Nat.two_pow_pos (amount.log2 - 52))).mpr below
    have one := carry_le (2 ^ (amount.log2 - 52)) (amount / 2 ^ (amount.log2 - 52))
      (amount % 2 ^ (amount.log2 - 52))
    unfold rounded
    omega

/-- Ranks are in the order of their magnitudes. -/
theorem units_le_iff {rank greater : Nat} : units rank ≤ units greater ↔ rank ≤ greater := by
  have le_of {rank greater : Nat} (le : units rank ≤ units greater) : rank ≤ greater := by
    have ranks := nearest_rank_mono le
    rwa [nearest_rank_units, nearest_rank_units] at ranks
  constructor
  · exact le_of
  · intro le
    rcases Nat.le_total (units rank) (units greater) with order | order
    · exact order
    · rw [Nat.le_antisymm le (le_of order)]

theorem units_lt_iff {rank greater : Nat} : units rank < units greater ↔ rank < greater := by
  rw [← Nat.not_le, units_le_iff, Nat.not_le]

end Binary64
end SqlPipeline
