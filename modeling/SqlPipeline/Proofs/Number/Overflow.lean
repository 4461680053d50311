import SqlPipeline.Proofs.Number.Nearest

/-!
Whole numbers that no finite number is near to. A number keeps its first 53 binary digits and is
rounded by those after them, so that it grows to the next power of two from half a unit of the last
place below the power on. Beyond the finite numbers are therefore the whole numbers from that half
unit below `2 ^ 1024` on.
-/

namespace SqlPipeline
namespace Binary64

/-- What is left of an amount beside `quotient` times `spacing` counts as one more from the middle
on, and in the middle where the quotient is odd. -/
def carry (spacing quotient remainder : Nat) : Nat :=
  if spacing < 2 * remainder || (2 * remainder = spacing && quotient % 2 = 1) then 1 else 0

theorem nearest_rank_carry {amount level : Nat} (found : amount.log2 - 52 = level) :
    nearestRank amount 1 =
      level * 2 ^ 52 + amount / 2 ^ level + carry (2 ^ level) (amount / 2 ^ level) (amount % 2 ^ level) := by
  subst found
  simp only [nearestRank, carry, Nat.div_one, Nat.one_mul]

theorem carry_le (spacing quotient remainder : Nat) : carry spacing quotient remainder ≤ 1 := by
  unfold carry
  split <;> omega

theorem carry_scaled (spacing quotient remainder : Nat) {factor : Nat} (positive : 0 < factor) :
    carry (spacing * factor) quotient (remainder * factor) = carry spacing quotient remainder := by
  have doubled : 2 * (remainder * factor) = 2 * remainder * factor := (Nat.mul_assoc _ _ _).symm
  have tie : 2 * remainder * factor = spacing * factor ↔ 2 * remainder = spacing :=
    ⟨Nat.eq_of_mul_eq_mul_right positive, congrArg (· * factor)⟩
  simp only [carry, doubled, Nat.mul_lt_mul_right positive, tie]

/-- From an odd quotient on, the middle is taken up. -/
theorem carry_odd {quotient : Nat} (odd : quotient % 2 = 1) (half remainder : Nat) :
    carry (2 * half) quotient remainder = 1 ↔ half ≤ remainder := by
  simp only [carry, odd, decide_true, Bool.and_true, Bool.or_eq_true, decide_eq_true_eq]
  split <;> omega

/-- The rank of a number with zeros behind its binary digits. -/
theorem nearest_rank_shifted {n level : Nat} (found : n.log2 = level + 52) (shift : Nat) :
    nearestRank (n * 2 ^ shift) 1 =
      (level + shift) * 2 ^ 52 + n / 2 ^ level + carry (2 ^ level) (n / 2 ^ level) (n % 2 ^ level) := by
  have power := Nat.two_pow_pos shift
  have positive : 0 < n := by
    apply Nat.pos_of_ne_zero
    rintro rfl
    rw [Nat.log2_zero] at found
    omega
  have whole : (n * 2 ^ shift).log2 - 52 = level + shift := by
    rw [log_scaled positive, found]
    omega
  rw [nearest_rank_carry whole, Nat.pow_add, Nat.mul_div_mul_right _ _ power,
    Nat.mul_mod_mul_right, carry_scaled _ _ _ power]

/-- The digits of a number on its level. -/
theorem digits_of_level {n level : Nat} (found : n.log2 = level + 52) :
    2 ^ 52 ≤ n / 2 ^ level ∧ n / 2 ^ level < 2 ^ 53 := by
  have power := Nat.two_pow_pos level
  have nonzero : n ≠ 0 := by
    rintro rfl
    rw [Nat.log2_zero] at found
    omega
  have lower := Nat.log2_self_le nonzero
  have upper := Nat.lt_log2_self (n := n)
  rw [found, Nat.pow_add, Nat.mul_comm] at lower
  rw [found, Nat.add_assoc, Nat.pow_add, Nat.mul_comm] at upper
  exact ⟨(Nat.le_div_iff_mul_le power).mpr lower, (Nat.div_lt_iff_lt_mul power).mpr upper⟩

/-- Rounding 53 binary digits gives 54 of them from half a unit of the last place below `2 ^ 53` on. -/
theorem rounds_over_iff {n level : Nat} (below : n < 2 ^ 53 * 2 ^ (level + 1)) :
    2 ^ 53 ≤ n / 2 ^ (level + 1)
        + carry (2 ^ (level + 1)) (n / 2 ^ (level + 1)) (n % 2 ^ (level + 1)) ↔
      2 ^ 53 * 2 ^ (level + 1) - 2 ^ level ≤ n := by
  have power := Nat.two_pow_pos level
  have spacing : 2 ^ (level + 1) = 2 * 2 ^ level := Nat.pow_succ'
  have parts := Nat.div_add_mod n (2 ^ (level + 1))
  have rest := Nat.mod_lt n (Nat.two_pow_pos (level + 1))
  have most : n / 2 ^ (level + 1) < 2 ^ 53 := (Nat.div_lt_iff_lt_mul (Nat.two_pow_pos _)).mpr below
  generalize n % 2 ^ (level + 1) = r at *
  generalize n / 2 ^ (level + 1) = q at *
  rw [spacing] at *
  generalize 2 ^ level = half at *
  have one := carry_le (2 * half) q r
  by_cases last : q = 2 ^ 53 - 1
  · have taken := carry_odd (show q % 2 = 1 by omega) half r
    subst last
    omega
  · have short : q ≤ 2 ^ 53 - 2 := by omega
    have product : 2 * half * q ≤ 2 * half * (2 ^ 53 - 2) := Nat.mul_le_mul_left _ short
    apply iff_of_false <;> omega

/-- A number is rounded to a power of two or beyond from half a unit of the last place below the
power on. -/
theorem power_reached_iff {n : Nat} (positive : 0 < n) (level : Nat) {shift : Nat}
    (fine : 52 ≤ shift) :
    (level + shift + 3) * 2 ^ 52 ≤ nearestRank (n * 2 ^ shift) 1 ↔
      2 ^ 53 * 2 ^ (level + 1) - 2 ^ level ≤ n := by
  have half := Nat.two_pow_pos level
  have unit : 2 ^ (level + 1) = 2 * 2 ^ level := Nat.pow_succ'
  have nonzero : n ≠ 0 := Nat.ne_of_gt positive
  obtain ⟨own, placed⟩ : ∃ own, (n * 2 ^ shift).log2 = own + 52 :=
    ⟨n.log2 + (shift - 52), by rw [log_scaled positive]; omega⟩
  have log := log_scaled positive shift
  have digits := digits_of_level placed
  have rank := nearest_rank_carry (show (n * 2 ^ shift).log2 - 52 = own by omega)
  have one := carry_le (2 ^ own) (n * 2 ^ shift / 2 ^ own) (n * 2 ^ shift % 2 ^ own)
  rcases Nat.lt_trichotomy n.log2 (52 + (level + 1)) with less | same | greater
  · have below : n < 2 ^ (52 + (level + 1)) := (Nat.log2_lt nonzero).mp less
    rw [Nat.pow_add] at below
    apply iff_of_false <;> omega
  · have below : n < 2 ^ (53 + (level + 1)) := (Nat.log2_lt nonzero).mp (by omega)
    rw [Nat.pow_add] at below
    have top : n.log2 = level + 1 + 52 := by omega
    rw [nearest_rank_shifted top, ← rounds_over_iff below]
    omega
  · have least : 2 ^ (53 + (level + 1)) ≤ n := (Nat.le_log2 nonzero).mp (by omega)
    rw [Nat.pow_add] at least
    apply iff_of_true <;> omega

/-- The least whole number that is nearer to `2 ^ 1024` than to every finite number, or as near. -/
def overflow : Nat := 2 ^ 1024 - 2 ^ 970

theorem overflow_eq : overflow = 2 ^ 53 * 2 ^ (970 + 1) - 2 ^ 970 := by decide +kernel

/-- Whole numbers have no nearest number from the overflow on. -/
theorem of_int_infinite_iff {n : Int} :
    (∃ negative, ofInt n = infinity negative) ↔ overflow ≤ n.natAbs := by
  have reached : ranks ≤ nearestRank (n.natAbs * unitsPerOne) 1 ↔ overflow ≤ n.natAbs := by
    rcases Nat.eq_zero_or_pos n.natAbs with zero | positive
    · rw [zero]
      decide +kernel
    · have top : ranks = (970 + 1074 + 3) * 2 ^ 52 := by decide
      rw [top, overflow_eq, unitsPerOne]
      exact power_reached_iff positive 970 (by decide)
  rw [← reached, ofInt, ofRatio, ofRank]
  split
  · rename_i finite
    apply iff_of_false
    · rintro ⟨negative, same⟩
      cases same
    · exact Nat.not_le.mpr finite
  · rename_i great
    exact iff_of_true ⟨_, rfl⟩ (Nat.not_lt.mp great)

end Binary64
end SqlPipeline
