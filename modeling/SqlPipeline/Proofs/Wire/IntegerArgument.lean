import SqlPipeline.Proofs.Result.Getter

/-!
Integers that are sent. The declared width has no part in it: what is sent is the whole part of the
number that a value denotes, however great that is, so that a fraction is lost and a number outside of
the width comes back as a cell that the getter of the width refuses.
-/

namespace SqlPipeline
namespace Wire

open Cast (IsRefusal ReadsWhole)
open Result (Reader)

theorem encode_width (width : Width) (name? : Option Text) {value : Value}
    (present : value.isNull = false) :
    encode name? width.type value = (encodeInteger value).map (Argument.mk name?) := by
  rw [encode_eq]
  unfold encodeContent
  rw [present]
  cases width <;> rfl

/-- The digits that are sent are those of the whole part of a number. -/
theorem encode_integer_iff {value : Value} {content : Content} :
    encodeInteger value = .ok content ↔
      ∃ q, value.Denotes q ∧ (wholePart q).natAbs < 10 ^ Numeral.longest ∧
        content = .integer (Text.ofInt (wholePart q)) := by
  constructor
  · intro sent
    unfold encodeInteger at sent
    split at sent
    · rename_i reason failed
      cases reason <;> cases sent
    · rename_i n read
      unfold Numeral.integerText? at sent
      by_cases short : n.natAbs < 10 ^ Numeral.longest
      · rw [if_pos short] at sent
        cases sent
        obtain ⟨q, denotes, rfl⟩ := (Value.integer_iff short).mp read
        exact ⟨q, denotes, short, rfl⟩
      · rw [if_neg short] at sent
        cases sent
  · rintro ⟨q, denotes, short, rfl⟩
    have read := (Value.integer_iff short).mpr ⟨q, denotes, rfl⟩
    rw [encodeInteger, read]
    simp only [Json.integer_shown short]

theorem encode_width_iff (width : Width) (name? : Option Text) (value : Value)
    (argument : Argument) :
    encode name? width.type value = .ok argument ↔
      value = .null ∧ argument = ⟨name?, .null⟩ ∨
      ∃ q, value.Denotes q ∧ (wholePart q).natAbs < 10 ^ Numeral.longest ∧
        argument = ⟨name?, .integer (Text.ofInt (wholePart q))⟩ := by
  rcases value.null_or_present with rfl | present
  · have sent : encode name? width.type .null = .ok ⟨name?, .null⟩ := by cases width <;> rfl
    rw [sent]
    constructor
    · intro same
      cases same
      exact .inl ⟨rfl, rfl⟩
    · rintro (⟨-, rfl⟩ | ⟨q, denotes, -⟩)
      · rfl
      · cases denotes
  · have given : value ≠ .null := by
      rintro rfl
      cases present
    have mapped : (encodeInteger value).map (Argument.mk name?) = .ok argument ↔
        ∃ content, encodeInteger value = .ok content ∧ argument = ⟨name?, content⟩ := by
      cases encodeInteger value with
      | error failure => exact iff_of_false nofun nofun
      | ok content => simp [Except.map, eq_comm]
    rw [encode_width width name? present, mapped]
    simp only [given, false_and, false_or, encode_integer_iff]
    constructor
    · rintro ⟨content, ⟨q, denotes, short, rfl⟩, rfl⟩
      exact ⟨q, denotes, short, rfl⟩
    · rintro ⟨q, denotes, short, rfl⟩
      exact ⟨_, ⟨q, denotes, short, rfl⟩, rfl⟩

/-- A cell that is an integer is read with the widths that hold it, and refused by the others. -/
theorem get_integer (width : Width) {n : Int} (short : n.natAbs < 10 ^ Numeral.longest)
    {reader : Reader} {ordinal : Int} (shown : reader.value ordinal = .ok (.int n)) :
    ReadsWhole width.InRange (.int n) (reader.get width.target ordinal) := by
  rw [Reader.get_present shown rfl]
  exact Cast.width_reads width (Value.IsCell.int short).short

/-- An argument of an integer type is sent as the whole part of the number that its value denotes,
unless that is too long to be written, and null as null; nothing else is sent. It comes back as that
whole part, which is the number itself when that is whole, and which the getter of the width reads when
the width holds it. -/
theorem integer_argument (width : Width) (name? : Option Text) (value : Value) :
    (∀ argument, encode name? width.type value = .ok argument ↔
      value = .null ∧ argument = ⟨name?, .null⟩ ∨
      ∃ q, value.Denotes q ∧ (wholePart q).natAbs < 10 ^ Numeral.longest ∧
        argument = ⟨name?, .integer (Text.ofInt (wholePart q))⟩) ∧
    ∀ q, value.Denotes q -> (wholePart q).natAbs < 10 ^ Numeral.longest ->
      decodeCell .anything (Content.integer (Text.ofInt (wholePart q))).cell =
          .ok (.int (wholePart q)) ∧
        ((wholePart q : ℚ) = q ↔ ∃ n : Int, q = n) ∧
        ∀ (reader : Reader) (ordinal : Int), reader.value ordinal = .ok (.int (wholePart q)) ->
          (width.InRange (wholePart q) ->
            reader.get width.target ordinal = .ok (.int (wholePart q))) ∧
          (¬width.InRange (wholePart q) -> IsRefusal (reader.get width.target ordinal)) := by
  refine ⟨encode_width_iff width name? value, ?_⟩
  intro q denotes short
  refine ⟨decode_integer short, whole_part_eq_iff, ?_⟩
  intro reader ordinal shown
  have reads := get_integer width short shown
  constructor
  · exact fun inRange => reads.ok_iff.mpr ⟨_, rfl, .int _, inRange⟩
  · intro outside
    apply reads.refused
    intro n whole
    rwa [whole.unique (.int _)]

/-- One and a half is sent as one, and a number that 16 bits do not hold is sent as declared. -/
theorem integer_argument_inexact :
    (Value.decimal (.finite false 15 (-1))).Denotes (3 / 2) ∧
      encode none .int16 (.decimal (.finite false 15 (-1))) = .ok ⟨none, .integer ['1']⟩ ∧
      encode none .int16 (.int 40000) = .ok ⟨none, .integer "40000"⟩ ∧
      (numberReader 40000).value 0 = .ok (.int 40000) ∧
      IsRefusal ((numberReader 40000).get .int16 0) := by
  have half : ratio false 15 10 = 3 / 2 := by
    norm_num [ratio, Numeral.signed]
  have denotes : (Value.decimal (.finite false 15 (-1))).Denotes (3 / 2) := by
    rw [← half]
    exact .decimal false 15 (-1)
  have cut : wholePart (3 / 2) = 1 := by
    norm_num [wholePart]
  have one : (wholePart (3 / 2)).natAbs < 10 ^ Numeral.longest := by
    rw [cut]
    exact Numeral.lt_longest (by decide)
  have many : (wholePart (40000 : Int)).natAbs < 10 ^ Numeral.longest := by
    rw [whole_part_int]
    exact Numeral.lt_longest (by decide)
  obtain ⟨sentHalf, -⟩ := integer_argument .int16 none (.decimal (.finite false 15 (-1)))
  obtain ⟨sentMany, readMany⟩ := integer_argument .int16 none (.int 40000)
  have shown : (numberReader 40000).value 0 = .ok (.int 40000) := rfl
  refine ⟨denotes, ?_, ?_, shown, ?_⟩
  · apply (sentHalf _).mpr
    exact .inr ⟨3 / 2, denotes, one, by rw [cut]; rfl⟩
  · apply (sentMany _).mpr
    exact .inr ⟨(40000 : Int), .int 40000, many, by rw [whole_part_int]; rfl⟩
  · obtain ⟨-, -, reads⟩ := readMany (40000 : Int) (.int 40000) many
    rw [whole_part_int] at reads
    exact (reads _ _ shown).2 (by decide)

end Wire
end SqlPipeline
