import SqlPipeline.Proofs.Number.Nearest
import SqlPipeline.Proofs.Value.Denotation
import SqlPipeline.Proofs.Value.Overlong
import SqlPipeline.Proofs.Wire.Undecodable

/-!
What the cells of a document are decoded to. Bytes come of blobs only, and no integer is too long to be
written, whether the document had it, or text spelled it, or a real number was it.
-/

namespace SqlPipeline
namespace Value

/-- A value that a cell of a table can hold. A list or a record is the payload of a cell whose type is
none of the known ones. -/
inductive IsCell : Value -> Prop where
  | null : IsCell null
  | bool (b : Bool) : IsCell (bool b)
  | int {n : Int} (short : n.natAbs < 10 ^ Numeral.longest) : IsCell (int n)
  | real (x : Binary64) : IsCell (real x)
  | text (s : Text) : IsCell (text s)
  | bytes (bytes : Bytes) : IsCell (binary .fixed bytes)
  | stamp (stamp : Time.Stamp) : IsCell (moment (.naive stamp))
  | list {items : List Value} (short : ¬HoldsOverlong (list items)) : IsCell (list items)
  | dict {entries : List (Text × Value)} (short : ¬HoldsOverlong (dict entries)) :
      IsCell (dict entries)

theorem IsCell.short {value : Value} (cell : value.IsCell) : ¬value.HoldsOverlong := by
  intro held
  cases cell with
  | int short =>
      cases held with
      | int long => exact absurd short (Nat.not_lt.mpr long)
  | list short => exact short held
  | dict short => exact short held
  | _ => cases held

/-- A finite binary number is far below the integers that are too long. -/
theorem truncate_bound {x : Binary64} {n : Int} (found : x.truncate? = some n) :
    n.natAbs < 10 ^ Numeral.longest := by
  cases x with
  | finite negative rank =>
      rw [truncate_eq, whole_part_ratio] at found
      cases found
      have below : Binary64.units rank < 2 ^ 53 * 2 ^ 2046 := Binary64.units_lt (by omega)
      have power : 2 ^ 53 * 2 ^ 2046 ≤ 10 ^ Numeral.longest := by decide +kernel
      rw [Json.signed_nat_abs]
      calc Binary64.units rank / Binary64.unitsPerOne
          ≤ Binary64.units rank := Nat.div_le_self _ _
        _ < 2 ^ 53 * 2 ^ 2046 := below
        _ ≤ 10 ^ Numeral.longest := power
  | _ => cases found

theorem or_null_cell {found? : Option Int} (short : ∀ n ∈ found?, n.natAbs < 10 ^ Numeral.longest) :
    IsCell (Wire.orNull (found?.map .int)) := by
  cases found? with
  | none => exact .null
  | some n => exact .int (short n rfl)

end Value

namespace Wire

open Value (IsCell)

theorem received_cell {value : Value} (received : IsReceived value) : value.IsCell := by
  have writable := received.short
  obtain ⟨node, short, rfl⟩ := received
  cases short with
  | null => exact .null
  | bool b => exact .bool b
  | integer short => exact .int short
  | real x => exact .real x
  | text s => exact .text s
  | array each => exact .list writable
  | object each => exact .dict writable

/-- A text that starts with another character than a numeral spells no number. -/
theorem no_integer {c : Char} (solid : Text.isBlank c = false)
    (other : Numeral.isSpelling c = false) (rest : Text) :
    Numeral.integer? (Text.trim (c :: rest)) = none := by
  apply Option.eq_none_iff_forall_ne_some.mpr
  intro n found
  obtain ⟨before, core, after, first, last, cut, numeral⟩ := Numeral.trimmed_integer_iff.mp found
  obtain ⟨nonempty, head, -⟩ := numeral.ends
  cases before with
  | nil =>
      obtain ⟨d, core, rfl⟩ := List.exists_cons_of_ne_nil nonempty
      cases cut
      rw [head c rfl] at other
      cases other
  | cons d before =>
      cases cut
      rw [first c List.mem_cons_self] at solid
      cases solid

theorem no_integer_shown {c : Char} (solid : Text.isBlank c = false)
    (other : Numeral.isSpelling c = false) {value : Value} {texts? : Option (List Text)}
    {rest : List Text -> Text} (shown : value.display? = texts?.map fun texts => c :: rest texts) :
    (do some (Value.int (← Numeral.integer? (Text.trim (← value.display?))))) = none := by
  rw [shown]
  cases texts? with
  | none => rfl
  | some texts =>
      change (Numeral.integer? (Text.trim (c :: rest texts))).bind _ = none
      rw [no_integer solid other]
      rfl

/-- An integer is decoded from the values that are whole as cells. -/
theorem decode_integer_eq {raw : Value} (json : IsJson raw) :
    decodeInteger raw = orNull ((Cast.whole? raw).map .int) := by
  obtain ⟨node, rfl⟩ := json
  cases node with
  | null =>
      have shown : Value.null.display? = (some []).map fun _ : List Text => 'N' :: "one".toList := by
        decide
      exact congrArg orNull (no_integer_shown (by decide) (by decide) shown)
  | bool b => rfl
  | integer n => rfl
  | real x =>
      change (if x.isWhole then orNull (x.truncate?.map .int) else .null) =
        orNull ((if x.isWhole then x.truncate? else none).map .int)
      split <;> rfl
  | text s =>
      change orNull (do some (.int (← Numeral.integer? (Text.trim s)))) =
        orNull ((Numeral.integer? (Text.trim s)).map .int)
      cases Numeral.integer? (Text.trim s) <;> rfl
  | array items =>
      exact congrArg orNull (no_integer_shown (c := '[') (by decide) (by decide) rfl)
  | object members =>
      exact congrArg orNull (no_integer_shown (c := '\x7b') (by decide) (by decide) rfl)

theorem decode_integer_cell {raw : Value} (received : IsReceived raw) :
    (decodeInteger raw).IsCell := by
  rw [decode_integer_eq received.json]
  apply Value.or_null_cell
  intro n found
  cases received_cell received with
  | bool b =>
      cases found
      cases b <;> decide +kernel
  | int short =>
      cases found
      exact short
  | real x =>
      rw [Cast.whole?, Option.mem_def] at found
      split at found
      · exact Value.truncate_bound found
      · cases found
  | text s => exact Numeral.integer_bound found
  | _ => cases found

theorem decode_blob_bytes {raw value : Value} (decoded : decodeBlob raw = .ok value) :
    ∃ bytes, value = .binary .fixed bytes := by
  have read {s : Text} (decoded : decodeBase64 s = .ok value) :
      ∃ bytes, value = .binary .fixed bytes := by
    unfold decodeBase64 at decoded
    split at decoded
    · cases decoded
      exact ⟨_, rfl⟩
    · cases decoded
  cases raw with
  | text s =>
      rw [decodeBlob] at decoded
      split_ifs at decoded
      exact read decoded
  | binary holder bytes => exact read decoded
  | _ => cases decoded

theorem decode_as_cell {tag : Text} {raw value : Value} (received : IsReceived raw)
    (decoded : decodeAs tag raw = .ok value) : value.IsCell := by
  unfold decodeAs at decoded
  dsimp only at decoded
  split_ifs at decoded with null integer real blob text
  · cases decoded
    exact .null
  · cases decoded
    exact decode_integer_cell received
  · unfold decodeReal at decoded
    split at decoded
    · cases decoded
      exact .real _
    · cases decoded
    · cases decoded
      exact .null
  · obtain ⟨bytes, rfl⟩ := decode_blob_bytes decoded
    exact .bytes bytes
  · obtain ⟨s, shown⟩ := decode_text_received received
    rw [shown] at decoded
    cases decoded
    exact .text s
  · cases decoded
    exact received_cell received

/-- A received cell is decoded to what a table can hold. -/
theorem decode_cell_cell {cell value : Value} (received : IsReceived cell)
    (decoded : decodeCell .anything cell = .ok value) : value.IsCell := by
  cases cell with
  | dict entries =>
      obtain ⟨tag, -, rest⟩ := Outcome.bind_eq_ok.mp decoded
      rw [decode_anything] at rest
      exact decode_as_cell (payload_received received) rest
  | _ =>
      cases decoded
      exact .null

end Wire
end SqlPipeline
