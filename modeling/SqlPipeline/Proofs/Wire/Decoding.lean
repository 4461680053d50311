import SqlPipeline.Proofs.Value.Escape
import SqlPipeline.Proofs.Wire.Contents

/-!
What the decoding of a cell comes to, whatever the cell says and the reader of it expects. What cannot
be read as its type is null, and a blob that is no valid Base64 is an error of its content. The rest
escapes: a type that is neither text nor empty, a number too great for a real number, text of an
integer that is too long to be written, and a stamp that leaves the calendar on its way to universal
time.
-/

namespace SqlPipeline
namespace Wire

/-- A cell that fails to be decoded as what is expected of it and is no broken blob, and the fault that
comes of it. -/
inductive CellEscapes : Expected -> Value -> Fault -> Prop where
  | decoding {expected : Expected} {cell : Value} {fault : Fault}
      (escapes : EscapesDecoding cell fault) : CellEscapes expected cell fault
  | stamp {cell : Value} {s : Text} {fault : Fault}
      (decoded : decodeCell .anything cell = .ok (.text s))
      (escapes : Escapes .stamp (.text s) fault) : CellEscapes .stamp cell fault

/-- A cell that is null, or cannot be read as the type that it says. -/
inductive IsBlank : Value -> Prop where
  | notARecord {cell : Value} (other : ∀ entries, cell ≠ .dict entries) : IsBlank cell
  | null {entries : List (Text × Value)} {tag : Text} (typed : member "type" entries = .text tag)
      (kind : Text.lower tag = "null".toList) : IsBlank (.dict entries)
  | absent {entries : List (Text × Value)}
      (typed : (∃ tag, member "type" entries = .text tag) ∨ (member "type" entries).holds = false)
      (absent : isAbsent (payload entries) = true) : IsBlank (.dict entries)
  | integer {entries : List (Text × Value)} {tag : Text} (typed : member "type" entries = .text tag)
      (kind : Text.lower tag = "integer".toList) (none : ∀ n, ¬(payload entries).IsWhole n) :
      IsBlank (.dict entries)
  | real {entries : List (Text × Value)} {tag : Text} {reason : NumberError}
      (typed : member "type" entries = .text tag) (kind : Text.lower tag = "float".toList)
      (failed : (payload entries).realNumber = .error reason) (small : reason ≠ .outOfRange) :
      IsBlank (.dict entries)

/-- A decoded value that is not what its reader expects. -/
inductive Misses : Expected -> Value -> Prop where
  | uuid {held : Value} {fault : Fault} (failed : held.toUuid = .error fault) : Misses .uuid held
  | stamp {held : Value} (failed : ∀ s, held = .text s -> Time.Stamp.read s = .error .malformed) :
      Misses .stamp held

/-- What a reader may get beside null. -/
inductive Admits : Expected -> Value -> Prop where
  | anything (value : Value) : Admits .anything value
  | truth (b : Bool) : Admits .truth (.bool b)
  | uuid (u : Uuid) : Admits .uuid (.uuid u)
  | stamp (stamp : Time.Stamp) : Admits .stamp (.moment (.naive stamp))

/-! What a reader expects. -/

theorem decode_cell_expected (expected : Expected) (cell : Value) :
    decodeCell expected cell = decodeCell .anything cell >>= expect expected := by
  cases cell with
  | dict entries =>
      rw [decodeCell, decodeCell]
      cases cellTag (member "type" entries) with
      | error fault => rfl
      | ok tag =>
          rw [Outcome.ok_bind, Outcome.ok_bind, decode_anything]
          rfl
  | _ => rfl

theorem expect_stamp_text (s : Text) :
    expect .stamp (.text s) =
      match Time.Stamp.read s with
      | .ok stamp => .ok (.moment (.naive stamp))
      | .error .malformed => .ok .null
      | .error .outOfRange => .error .outOfRange :=
  rfl

/-- An identifier that is none is null, for it is wrong in its content. -/
theorem expect_uuid_eq {held : Value} (present : held.isNull = false) :
    expect .uuid held =
      match held.toUuid with
      | .ok uuid => .ok (.uuid uuid)
      | .error _ => .ok .null := by
  unfold expect
  rw [present]
  change expectUuid held = _
  unfold expectUuid
  cases read : held.toUuid with
  | ok uuid => rfl
  | error fault => simp only [Cast.uuid_content read, if_true]

/-- Only a stamp that is expected can be in error. -/
theorem expect_error_iff {expected : Expected} {held : Value} {fault : Fault} :
    expect expected held = .error fault ↔
      expected = .stamp ∧ ∃ s, held = .text s ∧ Escapes .stamp (.text s) fault := by
  rcases held.null_or_present with rfl | present
  · exact iff_of_false nofun nofun
  · cases expected with
    | anything =>
        unfold expect
        rw [present]
        exact iff_of_false nofun nofun
    | truth =>
        unfold expect
        rw [present]
        exact iff_of_false nofun nofun
    | uuid =>
        rw [expect_uuid_eq present]
        cases held.toUuid <;> exact iff_of_false nofun nofun
    | stamp =>
        cases held with
        | text s =>
            rw [expect_stamp_text]
            simp only [true_and, Value.text.injEq, exists_eq_left', stamp_text_escapes_iff]
            cases Time.Stamp.read s with
            | ok stamp => simp
            | error reason => cases reason <;> simp [eq_comm]
        | null => cases present
        | _ => exact iff_of_false nofun nofun

theorem expect_null_iff {expected : Expected} {held : Value} (present : held.isNull = false) :
    expect expected held = .ok .null ↔ Misses expected held := by
  cases expected with
  | anything =>
      unfold expect
      rw [present]
      refine iff_of_false ?_ nofun
      intro same
      cases same
      cases present
  | truth =>
      unfold expect
      rw [present]
      exact iff_of_false nofun nofun
  | uuid =>
      rw [expect_uuid_eq present]
      cases read : held.toUuid with
      | ok uuid =>
          refine iff_of_false nofun ?_
          intro misses
          cases misses with
          | uuid failed =>
              rw [read] at failed
              cases failed
      | error fault => exact iff_of_true rfl (.uuid read)
  | stamp =>
      cases held with
      | text s =>
          have own : Misses .stamp (.text s) ↔ Time.Stamp.read s = .error .malformed := by
            constructor
            · intro misses
              cases misses with
              | stamp failed => exact failed s rfl
            · intro failed
              apply Misses.stamp
              intro other same
              cases same
              exact failed
          rw [expect_stamp_text, own]
          cases Time.Stamp.read s with
          | ok stamp => simp
          | error reason => cases reason <;> simp
      | null => cases present
      | _ => exact iff_of_true rfl (.stamp nofun)

theorem expect_admits {expected : Expected} {held value : Value}
    (read : expect expected held = .ok value) : value = .null ∨ Admits expected value := by
  rcases held.null_or_present with rfl | present
  · cases read
    exact .inl rfl
  · cases expected with
    | anything => exact .inr (.anything value)
    | truth =>
        unfold expect at read
        rw [present] at read
        cases read
        exact .inr (.truth _)
    | uuid =>
        rw [expect_uuid_eq present] at read
        split at read
        · cases read
          exact .inr (.uuid _)
        · cases read
          exact .inl rfl
    | stamp =>
        cases held with
        | text s =>
            rw [expect_stamp_text] at read
            split at read
            · cases read
              exact .inr (.stamp _)
            · cases read
              exact .inl rfl
            · cases read
        | null => cases present
        | _ =>
            cases read
            exact .inl rfl

/-! What a type and a payload are decoded to. -/

theorem decode_integer_null_iff {raw : Value} (json : IsJson raw) :
    decodeInteger raw = .null ↔ ∀ n, ¬raw.IsWhole n := by
  simp only [← Value.whole_iff, ← Option.eq_none_iff_forall_ne_some, decode_integer_eq json]
  cases Cast.whole? raw with
  | none => exact iff_of_true rfl rfl
  | some n => exact iff_of_false nofun nofun

theorem decode_real_null_iff {raw : Value} :
    decodeReal raw = .ok .null ↔ ∃ reason, raw.realNumber = .error reason ∧ reason ≠ .outOfRange := by
  rw [decodeReal]
  cases raw.realNumber with
  | ok x => simp
  | error reason => cases reason <;> simp

theorem decode_as_null_iff {tag : Text} {raw : Value} :
    decodeAs tag raw = .ok .null ↔
      Text.lower tag = "null".toList ∨ isAbsent raw = true ∨
      Text.lower tag = "integer".toList ∧ decodeInteger raw = .null ∨
      Text.lower tag = "float".toList ∧ decodeReal raw = .ok .null := by
  unfold decodeAs
  dsimp only
  split_ifs with null integer real blob text
  · exact iff_of_true rfl (null.imp_right .inl)
  · obtain ⟨notNull, present⟩ := not_or.mp null
    simp [integer, present]
  · obtain ⟨notNull, present⟩ := not_or.mp null
    simp [real, present]
  all_goals
    obtain ⟨notNull, present⟩ := not_or.mp null
    have other : ¬(Text.lower tag = "null".toList ∨ isAbsent raw = true ∨
        Text.lower tag = "integer".toList ∧ decodeInteger raw = .null ∨
        Text.lower tag = "float".toList ∧ decodeReal raw = .ok .null) := by
      rintro (kind | absent | ⟨kind, -⟩ | ⟨kind, -⟩)
      · exact notNull kind
      · exact present absent
      · exact integer kind
      · exact real kind
    refine iff_of_false ?_ other
    intro decoded
  · obtain ⟨bytes, same⟩ := decode_blob_bytes decoded
    cases same
  · obtain ⟨s, -, same⟩ := Outcome.bind_eq_ok.mp decoded
    cases same
  · cases decoded
    exact present rfl

/-! Cells. -/

section

variable {cell : Value} {expected : Expected} {fault : Fault}

theorem CellEscapes.decode (json : IsJson cell)
    (escapes : CellEscapes expected cell fault) : decodeCell expected cell = .error fault := by
  rw [decode_cell_expected]
  cases escapes with
  | decoding escapes =>
      rw [escapes.decode json]
      rfl
  | stamp decoded escapes =>
      rw [decoded, Outcome.ok_bind]
      exact expect_error_iff.mpr ⟨rfl, _, rfl, escapes⟩

theorem IsBrokenBlob.decode (json : IsJson cell) (broken : IsBrokenBlob cell) (expected : Expected) :
    ∃ fault, decodeCell expected cell = .error fault ∧ fault.isContent = true := by
  obtain ⟨fault, failed, content⟩ := decode_broken_blob json broken
  refine ⟨fault, ?_, content⟩
  rw [decode_cell_expected, failed]
  rfl

theorem decode_expected_fails (json : IsJson cell) (failed : decodeCell expected cell = .error fault) :
    IsBrokenBlob cell ∨ CellEscapes expected cell fault := by
  rw [decode_cell_expected] at failed
  cases decoded : decodeCell .anything cell with
  | error own =>
      rw [decoded] at failed
      cases failed
      exact (decode_fails json decoded).imp And.left .decoding
  | ok held =>
      rw [decoded, Outcome.ok_bind] at failed
      obtain ⟨rfl, s, rfl, escapes⟩ := expect_error_iff.mp failed
      exact .inr (.stamp decoded escapes)

theorem decode_null_blank (json : IsJson cell) (decoded : decodeCell .anything cell = .ok .null) :
    IsBlank cell := by
  cases cell with
  | dict entries =>
      rcases decode_record_cases json with
        ⟨tag, typed, same⟩ | ⟨-, ⟨-, same⟩ | ⟨missing, same⟩⟩
      · rw [same, decode_as_null_iff] at decoded
        rcases decoded with kind | absent | ⟨kind, lost⟩ | ⟨kind, lost⟩
        · exact .null typed kind
        · exact .absent (.inl ⟨tag, typed⟩) absent
        · exact .integer typed kind ((decode_integer_null_iff (payload_json json)).mp lost)
        · obtain ⟨reason, failed, small⟩ := decode_real_null_iff.mp lost
          exact .real typed kind failed small
      · rw [same] at decoded
        cases decoded
      · rw [same, decode_as_null_iff] at decoded
        rcases decoded with kind | absent | ⟨kind, -⟩ | ⟨kind, -⟩
        · cases kind
        · exact .absent (.inr missing) absent
        · cases kind
        · cases kind
  | _ => exact .notARecord nofun

theorem IsBlank.decode (json : IsJson cell) (blank : IsBlank cell) :
    decodeCell .anything cell = .ok .null := by
  cases blank with
  | notARecord other =>
      cases cell with
      | dict entries => exact absurd rfl (other entries)
      | _ => rfl
  | null typed kind =>
      rw [decode_typed typed, decode_as_null_iff]
      exact .inl kind
  | absent typed absent =>
      rcases decode_record_cases json with
        ⟨tag, -, same⟩ | ⟨other, ⟨given, -⟩ | ⟨-, same⟩⟩
      · rw [same, decode_as_null_iff]
        exact .inr (.inl absent)
      · rcases typed with ⟨tag, typed⟩ | missing
        · exact absurd typed (other tag)
        · rw [given] at missing
          cases missing
      · rw [same, decode_as_null_iff]
        exact .inr (.inl absent)
  | integer typed kind none =>
      have lost := (decode_integer_null_iff (payload_json json)).mpr none
      rw [decode_typed typed, decode_as_null_iff]
      exact .inr (.inr (.inl ⟨kind, lost⟩))
  | real typed kind failed small =>
      rw [decode_typed typed, decode_as_null_iff]
      exact .inr (.inr (.inr ⟨kind, decode_real_null_iff.mpr ⟨_, failed, small⟩⟩))

theorem decode_expected_null_iff (json : IsJson cell) :
    decodeCell expected cell = .ok .null ↔
      IsBlank cell ∨ ∃ held, decodeCell .anything cell = .ok held ∧ held.isNull = false ∧
        Misses expected held := by
  rw [decode_cell_expected]
  constructor
  · intro decoded
    obtain ⟨held, own, read⟩ := Outcome.bind_eq_ok.mp decoded
    rcases held.null_or_present with rfl | present
    · exact .inl (decode_null_blank json own)
    · exact .inr ⟨held, own, present, (expect_null_iff present).mp read⟩
  · rintro (blank | ⟨held, own, present, misses⟩)
    · rw [blank.decode json]
      rfl
    · rw [own]
      exact (expect_null_iff present).mpr misses

end

/-- A cell of any document is decoded, or is a broken blob, or escapes. It is null when it is blank or
misses what is expected of it, and is else of the kind that is expected. -/
theorem decoding_outcome {cell : Value} (json : IsJson cell) (expected : Expected) :
    ((∃ fault, decodeCell expected cell = .error fault) ↔
      IsBrokenBlob cell ∨ ∃ fault, CellEscapes expected cell fault) ∧
    (IsBrokenBlob cell ->
      ∃ fault, decodeCell expected cell = .error fault ∧ fault.isContent = true) ∧
    (∀ fault, CellEscapes expected cell fault -> decodeCell expected cell = .error fault) ∧
    (decodeCell expected cell = .ok .null ↔
      IsBlank cell ∨ ∃ held, decodeCell .anything cell = .ok held ∧ held.isNull = false ∧
        Misses expected held) ∧
    ∀ value, decodeCell expected cell = .ok value -> value = .null ∨ Admits expected value := by
  refine ⟨⟨?_, ?_⟩, fun broken => broken.decode json expected,
    fun fault escapes => escapes.decode json, decode_expected_null_iff json, ?_⟩
  · rintro ⟨fault, failed⟩
    exact (decode_expected_fails json failed).imp_right fun escapes => ⟨fault, escapes⟩
  · rintro (broken | ⟨fault, escapes⟩)
    · obtain ⟨fault, failed, -⟩ := broken.decode json expected
      exact ⟨fault, failed⟩
    · exact ⟨fault, escapes.decode json⟩
  · intro value decoded
    rw [decode_cell_expected] at decoded
    obtain ⟨held, -, read⟩ := Outcome.bind_eq_ok.mp decoded
    exact expect_admits read

theorem decoding_outcome_escapes :
    IsJson (.dict [("type", .text "float"), ("value", .int (10 ^ 400))]) ∧
      decodeCell .anything (.dict [("type", .text "float"), ("value", .int (10 ^ 400))]) =
        .error .outOfRange ∧
      IsJson (.dict [("type", .text "text"), ("value", .text "9999-12-31T23:59:59-01:00")]) ∧
      decodeCell .stamp
          (.dict [("type", .text "text"), ("value", .text "9999-12-31T23:59:59-01:00")]) =
        .error .outOfRange := by
  have great : IsJson (.dict [("type", .text "float"), ("value", .int (10 ^ 400))]) :=
    ⟨.object [("type", .text "float"), ("value", .integer (10 ^ 400))], rfl⟩
  have late : IsJson (.dict [("type", .text "text"), ("value", .text "9999-12-31T23:59:59-01:00")]) :=
    ⟨.object [("type", .text "text"), ("value", .text "9999-12-31T23:59:59-01:00")], rfl⟩
  refine ⟨great, ?_, late, ?_⟩
  · apply (decoding_outcome great .anything).2.2.1
    exact .decoding (.real rfl (by decide) rfl (by decide +kernel))
  · apply (decoding_outcome late .stamp).2.2.1
    refine .stamp rfl (stamp_text_escapes_iff.mpr ⟨rfl, ?_⟩)
    decide +kernel

end Wire
end SqlPipeline
