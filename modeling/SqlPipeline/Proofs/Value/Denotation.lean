import SqlPipeline.Proofs.Number.Ratio
import SqlPipeline.Proofs.Number.Spelling
import SqlPipeline.Value.Cast

/-!
The number that a value denotes, as a rational number. Binary and decimal numbers denote a ratio; text
and bytes denote the integer that they spell. What becomes of a value where an integer is wanted is
told by that number: an argument keeps its whole part, and a cell must be whole.
-/

namespace SqlPipeline

namespace Value

/-- The number that a value denotes. -/
inductive Denotes : Value -> ℚ -> Prop where
  | bool (b : Bool) : Denotes (bool b) (if b then 1 else 0 : Int)
  | int (n : Int) : Denotes (int n) n
  | real (negative : Bool) (rank : Fin (2047 * 2 ^ 52)) :
      Denotes (real (.finite negative rank))
        (ratio negative (Binary64.units rank) Binary64.unitsPerOne)
  | decimal (negative : Bool) (coefficient : Nat) (exponent : Int) :
      Denotes (decimal (.finite negative coefficient exponent))
        (ratio negative (coefficient * 10 ^ exponent.toNat) (10 ^ (-exponent).toNat))
  | text {s : Text} {n : Int} (spells : Numeral.Spells Numeral.isMargin s n) : Denotes (text s) n
  | binary {holder : Holder} {bytes : Bytes} {n : Int}
      (spells : Numeral.Spells Numeral.isSpace (bytes.map fun byte => Char.ofNat byte.val) n) :
      Denotes (binary holder bytes) n
  | uuid (u : Uuid) : Denotes (uuid u) (u.value.val : Int)

/-- The whole number that a cell is. -/
inductive IsWhole : Value -> Int -> Prop where
  | bool (b : Bool) : IsWhole (bool b) (if b then 1 else 0)
  | int (n : Int) : IsWhole (int n) n
  | real {negative : Bool} {rank : Fin (2047 * 2 ^ 52)} {n : Int}
      (exact : ratio negative (Binary64.units rank) Binary64.unitsPerOne = n) :
      IsWhole (real (.finite negative rank)) n
  | text {s : Text} {n : Int} (spells : Numeral.Spells Text.isBlank s n) : IsWhole (text s) n

theorem or_malformed_ok_iff {α : Type} {x : Option α} {result : α} :
    orMalformed x = .ok result ↔ x = some result := by
  cases x with
  | none => exact iff_of_false nofun nofun
  | some own => simp [orMalformed]

/-- A finite binary number is cut off to the whole part of what it denotes. -/
theorem truncate_eq (negative : Bool) (rank : Fin (2047 * 2 ^ 52)) :
    (Binary64.finite negative rank).truncate? =
      some (wholePart (ratio negative (Binary64.units rank) Binary64.unitsPerOne)) := by
  rw [whole_part_ratio]
  rfl

/-- The whole part of a decimal, unless it is too long to be written. -/
theorem decimal_whole_part_iff {negative : Bool} {coefficient : Nat} {exponent n : Int}
    (short : n.natAbs < 10 ^ Numeral.longest) :
    Decimal.wholePart? negative coefficient exponent = some n ↔
      wholePart (ratio negative (coefficient * 10 ^ exponent.toNat) (10 ^ (-exponent).toNat)) = n := by
  rw [whole_part_ratio, Decimal.wholePart?]
  split_ifs with nothing long whole small
  · cases negative <;> simp [nothing, Numeral.signed]
  · refine iff_of_false not_false ?_
    rintro rfl
    have none : (-exponent).toNat = 0 := by omega
    have power : 10 ^ Numeral.longest ≤ 10 ^ exponent.toNat :=
      Nat.pow_le_pow_right (by decide) (by omega)
    rw [none, Nat.pow_zero, Nat.div_one, Json.signed_nat_abs] at short
    have grown : 10 ^ exponent.toNat ≤ coefficient * 10 ^ exponent.toNat :=
      Nat.le_mul_of_pos_left _ (Nat.pos_of_ne_zero nothing)
    omega
  · have none : (-exponent).toNat = 0 := by omega
    rw [none, Nat.pow_zero, Nat.div_one, Option.some.injEq]
  · have below : coefficient < 10 ^ (-exponent).toNat := by
      apply Nat.lt_of_lt_of_le _ (Nat.pow_le_pow_right (by decide) (Nat.le_of_lt _))
      · exact (Text.decimal coefficient).length
      · exact (Text.length_decimal_le (List.length_pos_iff.mpr (Text.decimal_ne_nil _))).mp
          (Nat.le_refl _)
      · omega
    have none : exponent.toNat = 0 := by omega
    rw [none, Nat.pow_zero, Nat.mul_one, Nat.div_eq_of_lt below, Option.some.injEq]
    cases negative <;> simp [Numeral.signed]
  · have none : exponent.toNat = 0 := by omega
    rw [none, Nat.pow_zero, Nat.mul_one, Option.some.injEq]

theorem latin_plain (bytes : Bytes) :
    Numeral.IsPlain (bytes.map fun byte => Char.ofNat byte.val) := by
  intro c member
  obtain ⟨byte, -, rfl⟩ := List.mem_map.mp member
  have valid : byte.val.isValidChar := .inl (Nat.lt_trans byte.isLt (by decide))
  have code : (Char.ofNat byte.val).toNat = byte.val := by
    rw [Char.ofNat, dif_pos valid]
    rfl
  have low : (Char.ofNat byte.val).toNat < 0x660 := by
    rw [code]
    exact Nat.lt_trans byte.isLt (by decide)
  exact Numeral.ascii_digit low

/-! What each kind of value denotes. -/

theorem denotes_bool {b : Bool} {q : ℚ} :
    Denotes (bool b) q ↔ q = ((if b then 1 else 0 : Int) : ℚ) := by
  constructor
  · rintro ⟨⟩
    rfl
  · rintro rfl
    exact .bool b

theorem denotes_int {n : Int} {q : ℚ} : Denotes (int n) q ↔ q = n := by
  constructor
  · rintro ⟨⟩
    rfl
  · rintro rfl
    exact .int n

theorem denotes_real {negative : Bool} {rank : Fin (2047 * 2 ^ 52)} {q : ℚ} :
    Denotes (real (.finite negative rank)) q ↔
      q = ratio negative (Binary64.units rank) Binary64.unitsPerOne := by
  constructor
  · rintro ⟨⟩
    rfl
  · rintro rfl
    exact .real negative rank

theorem denotes_decimal {negative : Bool} {coefficient : Nat} {exponent : Int} {q : ℚ} :
    Denotes (decimal (.finite negative coefficient exponent)) q ↔
      q = ratio negative (coefficient * 10 ^ exponent.toNat) (10 ^ (-exponent).toNat) := by
  constructor
  · rintro ⟨⟩
    rfl
  · rintro rfl
    exact .decimal negative coefficient exponent

theorem denotes_text {s : Text} {q : ℚ} :
    Denotes (text s) q ↔ ∃ n : Int, q = n ∧ Numeral.Spells Numeral.isMargin s n := by
  constructor
  · rintro ⟨⟩
    exact ⟨_, rfl, ‹_›⟩
  · rintro ⟨n, rfl, spells⟩
    exact .text spells

theorem denotes_binary {holder : Holder} {bytes : Bytes} {q : ℚ} :
    Denotes (binary holder bytes) q ↔ ∃ n : Int, q = n ∧
      Numeral.Spells Numeral.isSpace (bytes.map fun byte => Char.ofNat byte.val) n := by
  constructor
  · rintro ⟨⟩
    exact ⟨_, rfl, ‹_›⟩
  · rintro ⟨n, rfl, spells⟩
    exact .binary spells

theorem denotes_uuid {u : Uuid} {q : ℚ} : Denotes (uuid u) q ↔ q = ((u.value.val : Int) : ℚ) := by
  constructor
  · rintro ⟨⟩
    rfl
  · rintro rfl
    exact .uuid u

/-- An integer that is made of a value is the whole part of what the value denotes. -/
theorem integer_iff {value : Value} {n : Int} (short : n.natAbs < 10 ^ Numeral.longest) :
    value.integer = .ok n ↔ ∃ q, value.Denotes q ∧ wholePart q = n := by
  cases value with
  | bool b => simp only [integer, Except.ok.injEq, denotes_bool, exists_eq_left, whole_part_int]
  | int own => simp only [integer, Except.ok.injEq, denotes_int, exists_eq_left, whole_part_int]
  | real x =>
      cases x with
      | finite negative rank =>
          have cut : integer (real (.finite negative rank)) =
              orMalformed (Binary64.truncate? (.finite negative rank)) := rfl
          simp only [cut, truncate_eq, or_malformed_ok_iff, denotes_real, exists_eq_left,
            Option.some.injEq]
      | _ => exact iff_of_false nofun nofun
  | decimal d =>
      cases d with
      | finite negative coefficient exponent =>
          simp only [integer, integerOfDecimal, or_malformed_ok_iff, denotes_decimal,
            exists_eq_left, decimal_whole_part_iff short]
      | _ => exact iff_of_false nofun nofun
  | text s =>
      simp only [integer, or_malformed_ok_iff, Numeral.integer_iff, denotes_text]
      constructor
      · exact fun spells => ⟨n, ⟨n, rfl, spells⟩, whole_part_int n⟩
      · rintro ⟨q, ⟨own, rfl, spells⟩, same⟩
        rwa [← same, whole_part_int]
  | binary holder bytes =>
      simp only [integer, or_malformed_ok_iff, spelled,
        Numeral.stripped_integer_iff (latin_plain bytes), denotes_binary]
      constructor
      · exact fun spells => ⟨n, ⟨n, rfl, spells⟩, whole_part_int n⟩
      · rintro ⟨q, ⟨own, rfl, spells⟩, same⟩
        rwa [← same, whole_part_int]
  | uuid u => simp only [integer, Except.ok.injEq, denotes_uuid, exists_eq_left, whole_part_int]
  | _ => exact iff_of_false nofun nofun

/-- A cell is read as an integer when it is whole. -/
theorem whole_iff {value : Value} {n : Int} : Cast.whole? value = some n ↔ value.IsWhole n := by
  cases value with
  | bool b =>
      constructor
      · rintro ⟨⟩
        exact .bool b
      · rintro ⟨⟩
        rfl
  | int own =>
      constructor
      · rintro ⟨⟩
        exact .int _
      · rintro ⟨⟩
        rfl
  | real x =>
      cases x with
      | finite negative rank =>
          have cell : IsWhole (real (.finite negative rank)) n ↔
              ratio negative (Binary64.units rank) Binary64.unitsPerOne = n :=
            ⟨fun whole => by cases whole; assumption, .real⟩
          rw [cell, ratio_whole_iff Binary64.one_positive, Cast.whole?, truncate_eq,
            whole_part_ratio, Binary64.isWhole]
          by_cases divides : Binary64.units rank % Binary64.unitsPerOne = 0
          · simp [divides, eq_comm]
          · simp [divides]
      | _ => exact iff_of_false nofun nofun
  | text s =>
      rw [Cast.whole?, Numeral.trimmed_integer_iff]
      constructor
      · exact .text
      · rintro ⟨⟩
        assumption
  | _ => exact iff_of_false nofun nofun

theorem IsWhole.unique {value : Value} {n m : Int} (first : value.IsWhole n)
    (second : value.IsWhole m) : n = m := by
  have found := whole_iff.mpr first
  rw [whole_iff.mpr second] at found
  exact (Option.some.inj found).symm

end Value
end SqlPipeline
