import SqlPipeline.Proofs.Json.Short

/-!
Values that have no text. A text is made of the texts of all parts, so that one integer that is too
long to be written, wherever it stands in a list or a record, leaves the whole without a text; nothing
else does.
-/

namespace SqlPipeline
namespace Value

/-- A value that is or holds an integer of more digits than are written. -/
inductive HoldsOverlong : Value -> Prop where
  | int {n : Int} (long : 10 ^ Numeral.longest ≤ n.natAbs) : HoldsOverlong (int n)
  | list {items : List Value} {item : Value} (member : item ∈ items) (held : HoldsOverlong item) :
      HoldsOverlong (list items)
  | dict {entries : List (Text × Value)} {entry : Text × Value} (member : entry ∈ entries)
      (held : HoldsOverlong entry.2) : HoldsOverlong (dict entries)

/-- A one with at least as many zeros as digits are written is too long. -/
theorem overlong_power (count : Nat) (many : Numeral.longest ≤ count) :
    HoldsOverlong (int (10 ^ count)) := by
  have size : (10 ^ count : Int).natAbs = 10 ^ count := by
    rw [Int.natAbs_pow]
    rfl
  apply HoldsOverlong.int
  rw [size]
  exact Nat.pow_le_pow_right (by decide) many

theorem list_overlong_iff {items : List Value} :
    HoldsOverlong (list items) ↔ ∃ item ∈ items, HoldsOverlong item := by
  constructor
  · intro held
    cases held with
    | list member held => exact ⟨_, member, held⟩
  · rintro ⟨item, member, held⟩
    exact .list member held

theorem dict_overlong_iff {entries : List (Text × Value)} :
    HoldsOverlong (dict entries) ↔ ∃ entry ∈ entries, HoldsOverlong entry.2 := by
  constructor
  · intro held
    cases held with
    | dict member held => exact ⟨_, member, held⟩
  · rintro ⟨entry, member, held⟩
    exact .dict member held

theorem integer_text_none_iff {n : Int} :
    Numeral.integerText? n = none ↔ HoldsOverlong (int n) := by
  constructor
  · intro lost
    apply HoldsOverlong.int
    apply Nat.le_of_not_lt
    intro short
    rw [Json.integer_shown short] at lost
    cases lost
  · intro held
    cases held with
    | int long => exact if_neg (Nat.not_lt.mpr long)

mutual

theorem inspect_none_iff (value : Value) : value.inspect? = none ↔ value.HoldsOverlong := by
  cases value with
  | int n => exact integer_text_none_iff
  | list items =>
      rw [inspect?, Option.map_eq_none_iff, list_overlong_iff]
      exact inspect_items_none_iff items
  | dict entries =>
      rw [inspect?, Option.map_eq_none_iff, dict_overlong_iff]
      exact inspect_entries_none_iff entries
  | _ => exact iff_of_false nofun nofun

theorem inspect_items_none_iff (items : List Value) :
    inspectItems? items = none ↔ ∃ item ∈ items, HoldsOverlong item := by
  cases items with
  | nil => exact iff_of_false nofun nofun
  | cons item rest =>
      have head := inspect_none_iff item
      have tail := inspect_items_none_iff rest
      simp only [List.mem_cons, exists_eq_or_imp, ← head, ← tail, inspectItems?]
      cases item.inspect? <;> cases inspectItems? rest <;> simp

theorem inspect_entries_none_iff (entries : List (Text × Value)) :
    inspectEntries? entries = none ↔ ∃ entry ∈ entries, HoldsOverlong entry.2 := by
  cases entries with
  | nil => exact iff_of_false nofun nofun
  | cons entry rest =>
      have head := inspect_none_iff entry.2
      have tail := inspect_entries_none_iff rest
      simp only [List.mem_cons, exists_eq_or_imp, ← head, ← tail, inspectEntries?]
      cases entry.2.inspect? <;> cases inspectEntries? rest <;> simp

end

theorem display_none_iff {value : Value} : value.display? = none ↔ value.HoldsOverlong := by
  cases value with
  | text s => exact iff_of_false nofun nofun
  | decimal d => exact iff_of_false nofun nofun
  | moment m => exact iff_of_false nofun nofun
  | date d => exact iff_of_false nofun nofun
  | clock c offset? => exact iff_of_false nofun nofun
  | span s => exact iff_of_false nofun nofun
  | uuid u => exact iff_of_false nofun nofun
  | _ => exact inspect_none_iff _

end Value
end SqlPipeline
