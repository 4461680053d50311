import SqlPipeline.Proofs.Number.Integer
import SqlPipeline.Uuid

/-!
The text of an identifier reads back as that identifier. Its hexadecimal digits hold its number, and
none of what the lenient reader drops or passes over occurs among them: markers, braces, signs, base
marks and underscores.
-/

namespace SqlPipeline
namespace Bytes

theorem hex_number_append (value : Nat) (s t : Text) :
    hexNumberFrom? value (s ++ t) = (hexNumberFrom? value s).bind fun n => hexNumberFrom? n t := by
  induction s generalizing value with
  | nil => rfl
  | cons c rest ih =>
      simp only [List.cons_append, hexNumberFrom?]
      cases hexValue? c with
      | none => rfl
      | some digit => exact ih _

theorem hex_value_digit {d : Nat} (below : d < 16) : hexValue? (Nat.digitChar d) = some d :=
  (by decide : ∀ d : Fin 16, hexValue? (Nat.digitChar d) = some d.val) ⟨d, below⟩

/-- The digits hold the number modulo what they have room for. -/
theorem hex_number_digits (width n value : Nat) :
    hexNumberFrom? value (hexDigits width n) = some (value * 16 ^ width + n % 16 ^ width) := by
  induction width generalizing n with
  | zero => simp [hexDigits, hexNumberFrom?, Nat.mod_one]
  | succ width ih =>
      have last := hex_value_digit (Nat.mod_lt n (by decide : 0 < 16))
      have parts : n % 16 ^ (width + 1) = n % 16 + 16 * (n / 16 % 16 ^ width) := by
        rw [Nat.pow_succ', Nat.mod_mul]
      have shifted : value * 16 ^ (width + 1) = 16 * (value * 16 ^ width) := by
        rw [Nat.pow_succ', Nat.mul_left_comm]
      rw [hexDigits, hex_number_append, ih, Option.bind_some]
      simp only [hexNumberFrom?, last]
      apply congrArg some
      omega

theorem length_hex_digits (width n : Nat) : (hexDigits width n).length = width := by
  induction width generalizing n with
  | zero => rfl
  | succ width ih => simp [hexDigits, ih]

/-- A property of the sixteen digits holds of every character of a hexadecimal text. -/
theorem hex_digits_cases {P : Char -> Prop} (holds : ∀ d : Fin 16, P (Nat.digitChar d))
    {width n : Nat} {c : Char} (member : c ∈ hexDigits width n) : P c := by
  induction width generalizing n with
  | zero => simp [hexDigits] at member
  | succ width ih =>
      simp only [hexDigits, List.mem_append, List.mem_singleton] at member
      rcases member with earlier | rfl
      · exact ih earlier
      · exact holds ⟨n % 16, Nat.mod_lt n (by decide)⟩

end Bytes

namespace Text

/-- Nothing is removed when the pattern's first character does not occur. -/
theorem remove_of_absent {first : Char} (pattern : Text) {s : Text} (absent : first ∉ s) :
    remove (first :: pattern) s = s := by
  rw [remove]
  induction s with
  | nil => rfl
  | cons c rest ih =>
      rw [List.mem_cons, not_or] at absent
      have differs : (first == c) = false := beq_eq_false_iff_ne.mpr absent.1
      simp [removeFrom, List.isPrefixOf, differs, ih absent.2]

end Text

namespace Uuid

theorem after_base_mark_of_absent {s : Text} (lower : 'x' ∉ s) (upper : 'X' ∉ s) :
    afterBaseMark s = s := by
  unfold afterBaseMark
  split
  · exact absurd (by simp) lower
  · exact absurd (by simp) upper
  · exact absurd (by simp) lower
  · exact absurd (by simp) upper
  · rfl

theorem ungroup_of_absent {s : Text} (absent : '_' ∉ s) (digitBefore : Bool) :
    ungroupFrom? digitBefore s = some s := by
  induction s generalizing digitBefore with
  | nil => rfl
  | cons c rest ih =>
      rw [List.mem_cons, not_or] at absent
      rw [ungroupFrom?, ih absent.2, Option.map_some]
      exact fun same => absent.1 same.symm

theorem hex_not_mem {c : Char} (other : ∀ d : Fin 16, c ≠ Nat.digitChar d) (uuid : Uuid) :
    c ∉ uuid.hex :=
  fun member => Bytes.hex_digits_cases (P := fun found => c ≠ found) other member rfl

theorem filter_text (uuid : Uuid) : uuid.text.filter (· ≠ '-') = uuid.hex := by
  have kept : ∀ s : Text, s ⊆ uuid.hex -> s.filter (· ≠ '-') = s := by
    intro s within
    rw [List.filter_eq_self]
    intro c member
    have differs : c ≠ '-' := by
      rintro rfl
      exact hex_not_mem (by decide) uuid (within member)
    simpa using differs
  have second : (uuid.hex.drop 8).take 4 ⊆ uuid.hex :=
    fun c member => List.mem_of_mem_drop (List.mem_of_mem_take member)
  have third : (uuid.hex.drop 12).take 4 ⊆ uuid.hex :=
    fun c member => List.mem_of_mem_drop (List.mem_of_mem_take member)
  have fourth : (uuid.hex.drop 16).take 4 ⊆ uuid.hex :=
    fun c member => List.mem_of_mem_drop (List.mem_of_mem_take member)
  have pieces : uuid.text.filter (· ≠ '-') = uuid.hex.take 8 ++ ((uuid.hex.drop 8).take 4
      ++ ((uuid.hex.drop 12).take 4 ++ ((uuid.hex.drop 16).take 4 ++ uuid.hex.drop 20))) := by
    simp only [text, List.filter_append, List.filter_cons, List.append_assoc]
    rw [kept _ (List.take_subset 8 _), kept _ second, kept _ third, kept _ fourth,
      kept _ (List.drop_subset 20 _)]
    simp
  have join : ∀ count : Nat, (uuid.hex.drop count).take 4 ++ uuid.hex.drop (count + 4) =
      uuid.hex.drop count := by
    intro count
    rw [← List.drop_drop, List.take_append_drop]
  rw [pieces, join 16, join 12, join 8, List.take_append_drop]

theorem text_chars {uuid : Uuid} {c : Char} (member : c ∈ uuid.text) : c = '-' ∨ c ∈ uuid.hex := by
  by_cases dash : c = '-'
  · exact .inl dash
  · have kept : c ∈ uuid.text.filter (· ≠ '-') := List.mem_filter.mpr ⟨member, by simpa using dash⟩
    rw [filter_text] at kept
    exact .inr kept

theorem text_not_mem {c : Char} (dash : c ≠ '-') (other : ∀ d : Fin 16, c ≠ Nat.digitChar d)
    (uuid : Uuid) : c ∉ uuid.text := by
  intro member
  rcases text_chars member with same | hex
  · exact dash same
  · exact hex_not_mem other uuid hex

theorem text_ne_nil (uuid : Uuid) : uuid.text ≠ [] := by
  intro empty
  have size : uuid.hex.length = 32 := Bytes.length_hex_digits 32 _
  rw [← filter_text, empty] at size
  exact absurd size (by decide)

theorem digits_of_text (uuid : Uuid) : digitsOf uuid.text = uuid.hex := by
  have urn : Text.remove "urn:" uuid.text = uuid.text :=
    Text.remove_of_absent _ (text_not_mem (by decide) (by decide) uuid)
  have marker : Text.remove "uuid:" uuid.text = uuid.text :=
    Text.remove_of_absent _ (text_not_mem (by decide) (by decide) uuid)
  have braces : stripBraces uuid.text = uuid.text := by
    apply Text.strip_of_all
    intro c member
    rcases text_chars member with rfl | hex
    · decide
    · exact Bytes.hex_digits_cases (P := fun c => isBrace c = false) (by decide) hex
  rw [digitsOf, urn, marker, braces, filter_text]

theorem plain_hex (uuid : Uuid) : Numeral.plain uuid.hex = uuid.hex := by
  have same : uuid.hex.map Numeral.plainChar = uuid.hex := by
    refine (List.map_congr_left ?_).trans (List.map_id' _)
    intro c member
    exact Bytes.hex_digits_cases (P := fun c => Numeral.plainChar c = c) (by decide) member
  rw [Numeral.plain, same]
  apply Text.strip_of_all
  intro c member
  exact Bytes.hex_digits_cases (P := fun c => Numeral.isSpace c = false) (by decide) member

theorem number_hex (uuid : Uuid) : number? uuid.hex = some uuid.value.val := by
  have signs := Numeral.sign_of_unsigned (hex_not_mem (by decide) uuid)
    (hex_not_mem (by decide) uuid)
  have unmarked := after_base_mark_of_absent (hex_not_mem (by decide) uuid)
    (hex_not_mem (by decide) uuid)
  have ungrouped := ungroup_of_absent (hex_not_mem (by decide) uuid) false
  have worth : Bytes.hexNumber? uuid.hex = some uuid.value.val := by
    rw [Bytes.hexNumber?, hex, Bytes.hex_number_digits, Nat.zero_mul, Nat.zero_add,
      Nat.mod_eq_of_lt (show uuid.value.val < 16 ^ 32 from uuid.value.isLt)]
  have nonempty : uuid.hex ≠ [] := by
    have size := Bytes.length_hex_digits 32 uuid.value.val
    rintro empty
    rw [← hex, empty] at size
    cases size
  simp [number?, plain_hex, signs, unmarked, ungrouped, worth, nonempty]

theorem of_text (uuid : Uuid) : ofText? uuid.text = some uuid := by
  have size : uuid.hex.length = 32 := Bytes.length_hex_digits 32 _
  have found : ofNat? uuid.value.val = some uuid := dif_pos uuid.value.isLt
  simp [ofText?, digits_of_text, size, number_hex, found]

end Uuid
end SqlPipeline
