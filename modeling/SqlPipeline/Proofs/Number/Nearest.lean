import SqlPipeline.Number.Shortest
import SqlPipeline.Proofs.Text.Cut
import SqlPipeline.Proofs.Text.Decimal

/-!
Decimals of a binary number. What is rounded to the nearest number depends on the ratio alone, so that
zeros behind the digits of a decimal may be traded for its exponent, and a number that is given
exactly is rounded to itself. The shortest digits of a number are therefore digits of it.
-/

namespace SqlPipeline
namespace Binary64

/-! The nearest rank. -/

/-- A ratio may be expanded. -/
theorem nearest_rank_scaled (amount divisor : Nat) {factor : Nat} (positive : 0 < factor) :
    nearestRank (amount * factor) (divisor * factor) = nearestRank amount divisor := by
  have level : amount * factor / (divisor * factor) = amount / divisor :=
    Nat.mul_div_mul_right amount divisor positive
  have spacing (power : Nat) : divisor * factor * power = divisor * power * factor :=
    Nat.mul_right_comm divisor factor power
  have doubled (n : Nat) : 2 * (n * factor) = 2 * n * factor := (Nat.mul_assoc 2 n factor).symm
  have tie (m n : Nat) : m * factor = n * factor ↔ m = n :=
    ⟨Nat.eq_of_mul_eq_mul_right positive, congrArg (· * factor)⟩
  simp only [nearestRank, level, spacing, Nat.mul_div_mul_right _ _ positive,
    Nat.mul_mod_mul_right, doubled, Nat.mul_lt_mul_right positive, tie]

theorem units_low {rank : Nat} (low : rank < 2 ^ 52) : units rank = rank :=
  if_pos low

theorem units_high {rank : Nat} (high : 2 ^ 52 ≤ rank) :
    units rank = (2 ^ 52 + rank % 2 ^ 52) * 2 ^ (rank / 2 ^ 52 - 1) :=
  if_neg (Nat.not_lt.mpr high)

theorem log_scaled {n : Nat} (positive : 0 < n) (shift : Nat) :
    (n * 2 ^ shift).log2 = n.log2 + shift := by
  have nonzero : n ≠ 0 := Nat.ne_of_gt positive
  have power := Nat.two_pow_pos shift
  have lower : 2 ^ (n.log2 + shift) ≤ n * 2 ^ shift := by
    rw [Nat.pow_add]
    exact Nat.mul_le_mul_right _ (Nat.log2_self_le nonzero)
  have upper : n * 2 ^ shift < 2 ^ (n.log2 + shift + 1) := by
    rw [Nat.add_right_comm, Nat.pow_add]
    exact Nat.mul_lt_mul_of_pos_right Nat.lt_log2_self power
  exact (Nat.log2_eq_iff (Nat.ne_of_gt (Nat.mul_pos positive power))).mpr ⟨lower, upper⟩

/-- The level of a magnitude of 53 binary digits and zeros behind them. -/
theorem log_of_digits {leading shift : Nat} (least : 2 ^ 52 ≤ leading) (below : leading < 2 ^ 53) :
    (leading * 2 ^ shift).log2 = 52 + shift := by
  have log : leading.log2 = 52 := (Nat.log2_eq_iff (by omega)).mpr ⟨least, below⟩
  rw [log_scaled (by omega), log]

/-- A number of units on its own level is rounded to the rank that stands there. -/
theorem nearest_rank_at {amount level : Nat} (found : amount.log2 - 52 = level)
    {quotient : Nat} (whole : amount = quotient * 2 ^ level) :
    nearestRank amount 1 = level * 2 ^ 52 + quotient := by
  have power := Nat.two_pow_pos level
  have remainder : amount % 2 ^ level = 0 := by rw [whole, Nat.mul_mod_left]
  have count : amount / 2 ^ level = quotient := by rw [whole, Nat.mul_div_cancel _ power]
  have settled : ¬(0 = 2 ^ level) := by omega
  simp only [nearestRank, Nat.div_one, found, Nat.one_mul, remainder, count]
  simp [settled]

/-- What is given in whole units is rounded to itself. -/
theorem nearest_rank_units (rank : Nat) : nearestRank (units rank) 1 = rank := by
  rcases Nat.lt_or_ge rank (2 ^ 52) with low | high
  · have level : rank.log2 - 52 = 0 := by
      have below : rank.log2 < 53 := by
        by_cases zero : rank = 0
        · rw [zero]
          decide
        · exact (Nat.log2_lt zero).mpr (by omega)
      omega
    rw [units_low low, nearest_rank_at level (by rw [Nat.pow_zero, Nat.mul_one])]
    omega
  · have level : (units rank).log2 - 52 = rank / 2 ^ 52 - 1 := by
      have below : 2 ^ 52 + rank % 2 ^ 52 < 2 ^ 53 := by omega
      rw [units_high high, log_of_digits (Nat.le_add_right _ _) below]
      omega
    rw [nearest_rank_at level (units_high high)]
    omega

theorem nearest_rank_exact (rank : Nat) {divisor : Nat} (positive : 0 < divisor) :
    nearestRank (units rank * divisor) divisor = rank := by
  have expanded := nearest_rank_scaled (units rank) 1 positive
  rw [Nat.one_mul] at expanded
  rw [expanded, nearest_rank_units]

theorem nearest_rank_places (rank places : Nat) :
    nearestRank (units rank * 10 ^ places) (10 ^ places) = rank :=
  nearest_rank_exact rank (Nat.pow_pos (by decide))

/-! Decimals. -/

theorem decimal_scaled {n : Nat} (positive : 0 < n) (count : Nat) :
    Text.decimal (n * 10 ^ count) = Text.decimal n ++ List.replicate count '0' := by
  induction count with
  | zero => simp
  | succ count ih =>
      have later : 0 < n * 10 ^ count := Nat.mul_pos positive (Nat.pow_pos (by decide))
      have joined := Nat.toDigits_append_toDigits (b := 10) (by decide) later (d := 0) (by decide)
      have zero : Nat.toDigits 10 0 = ['0'] := rfl
      have amount : n * 10 ^ (count + 1) = 10 * (n * 10 ^ count) := by
        rw [Nat.pow_succ, Nat.mul_comm 10, Nat.mul_assoc]
      rw [zero, Nat.add_zero, ← amount] at joined
      rw [Text.decimal, ← joined, ← Text.decimal, ih, List.append_assoc, List.replicate_succ']

theorem of_ratio_scaled (negative : Bool) (numerator denominator : Nat) {factor : Nat}
    (positive : 0 < factor) :
    ofRatio negative (numerator * factor) (denominator * factor) =
      ofRatio negative numerator denominator := by
  rw [ofRatio, Nat.mul_right_comm, nearest_rank_scaled _ _ positive, ofRatio]

/-- A decimal that is zero or far too small, one that is far too great, and one that is rounded as a
ratio. -/
theorem of_decimal_eq (negative : Bool) (coefficient : Nat) (exponent : Int) :
    ofDecimal negative coefficient exponent =
      if coefficient = 0 ∨ exponent + (Text.decimal coefficient).length < -400 then ofRank negative 0
      else if 400 < exponent + (Text.decimal coefficient).length then ofRank negative ranks
      else ofRatio negative (coefficient * 10 ^ exponent.toNat) (10 ^ (-exponent).toNat) := by
  have infinite : infinity negative = ofRank negative ranks := by
    rw [ofRank, dif_neg (show ¬ranks < 2047 * 2 ^ 52 from Nat.lt_irrefl ranks)]
  simp only [ofDecimal, Bool.or_eq_true, decide_eq_true_eq, Text.decimal, infinite]
  by_cases whole : 0 ≤ exponent
  · have none : (-exponent).toNat = 0 := by omega
    rw [if_pos whole, none, Nat.pow_zero]
    congr
  · have none : exponent.toNat = 0 := by omega
    rw [if_neg whole, none, Nat.pow_zero, Nat.mul_one]
    congr

/-- Zeros behind the digits of a decimal may be traded for its exponent. -/
theorem of_decimal_scaled (negative : Bool) (coefficient count : Nat) (exponent : Int) :
    ofDecimal negative (coefficient * 10 ^ count) (exponent - count) =
      ofDecimal negative coefficient exponent := by
  rw [of_decimal_eq, of_decimal_eq]
  rcases Nat.eq_zero_or_pos coefficient with rfl | positive
  · rw [Nat.zero_mul, if_pos (.inl rfl), if_pos (.inl rfl)]
  · have nonzero : coefficient * 10 ^ count = 0 ↔ coefficient = 0 := by
      have power : 0 < coefficient * 10 ^ count := Nat.mul_pos positive (Nat.pow_pos (by decide))
      omega
    have leading : exponent - count + (Text.decimal (coefficient * 10 ^ count)).length =
        exponent + (Text.decimal coefficient).length := by
      rw [decimal_scaled positive, List.length_append, List.length_replicate]
      omega
    -- Both ratios are expanded to the greater of the two powers of ten.
    have numerator : coefficient * 10 ^ count * 10 ^ (exponent - count).toNat =
        coefficient * 10 ^ exponent.toNat * 10 ^ (count - exponent.toNat) := by
      rw [Nat.mul_assoc, Nat.mul_assoc, ← Nat.pow_add, ← Nat.pow_add]
      congr 2
      omega
    have denominator : 10 ^ (-(exponent - count)).toNat =
        10 ^ (-exponent).toNat * 10 ^ (count - exponent.toNat) := by
      rw [← Nat.pow_add]
      congr 1
      omega
    rw [leading, numerator, denominator, of_ratio_scaled _ _ _ (Nat.pow_pos (by decide))]
    simp only [nonzero]

/-- The rank that a decimal is rounded to does not depend on its sign. -/
theorem exists_rank (coefficient : Nat) (exponent : Int) :
    ∃ rank, ∀ negative, ofDecimal negative coefficient exponent = ofRank negative rank := by
  simp only [of_decimal_eq]
  split
  · exact ⟨0, fun _ => rfl⟩
  · split
    · exact ⟨ranks, fun _ => rfl⟩
    · exact ⟨_, fun _ => rfl⟩

theorem of_rank_injective {negative : Bool} {rank other : Nat} (finite : rank < ranks)
    (same : ofRank negative other = ofRank negative rank) : other = rank := by
  unfold ofRank at same
  rw [dif_pos (show rank < 2047 * 2 ^ 52 from finite)] at same
  split at same
  · cases same
    rfl
  · cases same

/-- Digits of a rank are digits of the number of that rank and either sign. -/
theorem of_decimal_signed {coefficient : Nat} {exponent : Int} {rank : Nat} (finite : rank < ranks)
    (read : ofDecimal false coefficient exponent = ofRank false rank) (negative : Bool) :
    ofDecimal negative coefficient exponent = ofRank negative rank := by
  obtain ⟨own, rounded⟩ := exists_rank coefficient exponent
  rw [rounded] at read ⊢
  rw [of_rank_injective finite read]

/-! The shortest digits. -/

theorem units_pos {rank : Nat} (positive : 0 < rank) : 0 < units rank := by
  rcases Nat.lt_or_ge rank (2 ^ 52) with low | high
  · rwa [units_low low]
  · rw [units_high high]
    exact Nat.mul_pos (by omega) (Nat.two_pow_pos _)

theorem units_lt {rank level : Nat} (below : rank / 2 ^ 52 ≤ level) :
    units rank < 2 ^ 53 * 2 ^ level := by
  have power := Nat.two_pow_pos level
  rcases Nat.lt_or_ge rank (2 ^ 52) with low | high
  · rw [units_low low]
    calc rank < 2 ^ 53 := by omega
      _ ≤ 2 ^ 53 * 2 ^ level := Nat.le_mul_of_pos_right _ power
  · have digits : 2 ^ 52 + rank % 2 ^ 52 < 2 ^ 53 := by omega
    have lower : rank / 2 ^ 52 - 1 ≤ level := by omega
    rw [units_high high]
    calc (2 ^ 52 + rank % 2 ^ 52) * 2 ^ (rank / 2 ^ 52 - 1)
        < 2 ^ 53 * 2 ^ (rank / 2 ^ 52 - 1) := Nat.mul_lt_mul_of_pos_right digits (Nat.two_pow_pos _)
      _ ≤ 2 ^ 53 * 2 ^ level := Nat.mul_le_mul_left _ (Nat.pow_le_pow_right (by decide) lower)

theorem powers_apart :
    0 < 5 ^ 1074 ∧ 10 ^ 673 ≤ 5 ^ 1074 ∧ 2 ^ 53 * 2 ^ 2046 * 5 ^ 1074 ≤ 10 ^ 1474 := by
  decide +kernel

/-- All digits of a number are neither too few nor too many for it to be looked at. -/
theorem exact_digits_length {rank : Nat} (positive : 0 < rank) (finite : rank < ranks) :
    0 < units rank * 5 ^ 1074 ∧ 673 < (Text.decimal (units rank * 5 ^ 1074)).length ∧
      (Text.decimal (units rank * 5 ^ 1074)).length ≤ 1474 := by
  obtain ⟨some, least, greatest⟩ := powers_apart
  have below : units rank < 2 ^ 53 * 2 ^ 2046 := units_lt (by unfold ranks at finite; omega)
  generalize 5 ^ 1074 = power at *
  refine ⟨Nat.mul_pos (units_pos positive) some, ?_, ?_⟩
  · rw [← Nat.not_le, Text.length_decimal_le (by decide), Nat.not_lt]
    exact Nat.le_trans least (Nat.le_mul_of_pos_left _ (units_pos positive))
  · rw [Text.length_decimal_le (by decide)]
    exact Nat.lt_of_lt_of_le (Nat.mul_lt_mul_of_pos_right below some) greatest

theorem tens_of_halves (n places : Nat) : n * 5 ^ places * 2 ^ places = n * 10 ^ places := by
  rw [Nat.mul_assoc, ← Nat.mul_pow]

/-- All digits of a number are digits of it. -/
theorem exact_digits_read {rank : Nat} (positive : 0 < rank) (finite : rank < ranks) :
    (exactDigits rank).readsBack rank = true := by
  obtain ⟨nonzero, many, few⟩ := exact_digits_length positive finite
  have ratio : units rank * 5 ^ 1074 * unitsPerOne = units rank * 10 ^ 1074 :=
    tens_of_halves (units rank) 1074
  have whole : (-1074 : Int).toNat = 0 := rfl
  have places : (- -1074 : Int).toNat = 1074 := rfl
  have read : ofDecimal false (units rank * 5 ^ 1074) (-1074) = ofRank false rank := by
    generalize units rank * 5 ^ 1074 = amount at *
    rw [of_decimal_eq, if_neg (by omega), if_neg (by omega), ofRatio, whole, places, Nat.pow_zero,
      Nat.mul_one, ratio, nearest_rank_places]
  exact decide_eq_true read

theorem on_grid_reads {rank : Nat} {exponent : Int} {digits : Digits}
    (found : onGrid? rank exponent = some digits) : digits.readsBack rank = true := by
  have tried {first second : Digits} (chosen : (if first.readsBack rank then some first
      else if second.readsBack rank then some second else none) = some digits) :
      digits.readsBack rank = true := by
    by_cases near : first.readsBack rank = true
    · rw [if_pos near] at chosen
      cases chosen
      exact near
    · rw [if_neg near] at chosen
      by_cases far : second.readsBack rank = true
      · rw [if_pos far] at chosen
        cases chosen
        exact far
      · rw [if_neg far] at chosen
        cases chosen
  unfold onGrid? at found
  dsimp only at found
  exact tried found

theorem search_reads {rank : Nat} {leading : Int} {fuel count : Nat} {digits : Digits}
    (found : search rank leading fuel count = some digits) : digits.readsBack rank = true := by
  induction fuel generalizing count with
  | zero => cases found
  | succ fuel ih =>
      rw [search, Option.or_eq_some_iff] at found
      rcases found with near | ⟨-, later⟩
      · exact on_grid_reads near
      · exact ih later

/-- The shortest digits of a number read back as the number. -/
theorem shortest_reads {rank : Nat} (finite : rank < ranks) (negative : Bool) :
    ofDecimal negative (shortest rank).coefficient (shortest rank).exponent = ofRank negative rank := by
  refine of_decimal_signed finite ?_ negative
  by_cases zero : rank = 0
  · rw [zero]
    rfl
  · rw [shortest, if_neg zero]
    have read : ((search rank (leadingExponent (units rank)) 17 0).getD (exactDigits rank)).readsBack
        rank = true := by
      cases found : search rank (leadingExponent (units rank)) 17 0 with
      | some digits => exact search_reads found
      | none => exact exact_digits_read (Nat.pos_of_ne_zero zero) finite
    exact of_decide_eq_true read

end Binary64
end SqlPipeline
