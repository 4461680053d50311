import SqlPipeline.Proofs.Text.LetterCase
import SqlPipeline.Proofs.Wire.Decoding

/-!
Cells whose types differ in letter case only. The same payload is decoded alike under every spelling
of a type. Where the payload is looked for depends on the spelling: a blob has one under its own name
only when its type is written in small letters. What is stored there is null in any other spelling.
-/

namespace SqlPipeline
namespace Wire

/-- Two cells that hold the same members under types that differ in letter case only. -/
structure Respelled (tag other : Text) (entries others : List (Text × Value)) : Prop where
  typed : member "type" entries = .text tag
  typedOther : member "type" others = .text other
  letters : Text.lower other = Text.lower tag
  value : member "value" others = member "value" entries
  base64 : member "base64" others = member "base64" entries

/-- A blob in small letters that is stored under its own name alone and is not null for its reader,
beside another spelling of its type. -/
structure LosesBlob (expected : Expected) (tag other : Text) (entries : List (Text × Value)) :
    Prop where
  small : tag = "blob"
  respelled : other ≠ "blob"
  unnamed : member "value" entries = .null
  stored : isAbsent (member "base64" entries) = false
  wanted : ∀ bytes, decodeBlob (member "base64" entries) = .ok (.binary .fixed bytes) ->
    ¬Misses expected (.binary .fixed bytes)

section Payloads

variable {tag other : Text} {entries : List (Text × Value)} {raw : Value} {expected : Expected}

theorem payload_named (typed : member "type" entries = .text tag)
    (present : (member "value" entries).isNull = false) :
    payload entries = member "value" entries := by
  unfold payload
  rw [typed]
  cases found : member "value" entries with
  | null =>
      rw [found] at present
      cases present
  | _ => rfl

theorem payload_unnamed (typed : member "type" entries = .text tag)
    (unnamed : member "value" entries = .null) :
    payload entries = if tag = "blob".toList then member "base64" entries else .null := by
  unfold payload
  rw [typed, unnamed]

theorem decode_cell_typed (typed : member "type" entries = .text tag) :
    decodeCell expected (.dict entries) = decode expected tag (payload entries) := by
  rw [decodeCell, typed]
  rfl

/-- The letter case of a type does not count for what its payload is decoded to. -/
theorem decode_respelled (letters : Text.lower other = Text.lower tag) :
    decode expected other raw = decode expected tag raw := by
  rw [decode, decode, decodeAs, decodeAs, letters]

theorem decode_absent (absent : isAbsent raw = true) : decode expected tag raw = .ok .null := by
  rw [decode, decode_as_null_iff.mpr (.inr (.inl absent))]
  rfl

theorem decode_of_blob (kind : Text.lower tag = "blob".toList) (present : isAbsent raw = false) :
    decode expected tag raw = decodeBlob raw >>= expect expected := by
  rw [decode, decode_as_blob kind present]

theorem expected_blob_null_iff :
    decodeBlob raw >>= expect expected = .ok .null ↔
      ∃ bytes, decodeBlob raw = .ok (.binary .fixed bytes) ∧ Misses expected (.binary .fixed bytes) := by
  rw [Outcome.bind_eq_ok]
  constructor
  · rintro ⟨held, decoded, read⟩
    obtain ⟨bytes, rfl⟩ := decode_blob_bytes decoded
    exact ⟨bytes, decoded, (expect_null_iff rfl).mp read⟩
  · rintro ⟨bytes, decoded, misses⟩
    exact ⟨_, decoded, (expect_null_iff rfl).mpr misses⟩

end Payloads

namespace Respelled

variable {tag other : Text} {entries others : List (Text × Value)} {expected : Expected}

theorem symm (cells : Respelled tag other entries others) : Respelled other tag others entries :=
  ⟨cells.typedOther, cells.typed, cells.letters.symm, cells.value.symm, cells.base64.symm⟩

theorem alike (cells : Respelled tag other entries others)
    (same : payload others = payload entries) :
    decodeCell expected (.dict others) = decodeCell expected (.dict entries) := by
  rw [decode_cell_typed cells.typed, decode_cell_typed cells.typedOther, same,
    decode_respelled cells.letters]

/-- A spelling counts only where the payload of a blob is looked for. -/
theorem same_payload (cells : Respelled tag other entries others)
    (spelled : member "value" entries = .null -> (tag = "blob".toList ↔ other = "blob".toList)) :
    payload others = payload entries := by
  rcases (member "value" entries).null_or_present with unnamed | present
  · rw [payload_unnamed cells.typedOther (cells.value.trans unnamed),
      payload_unnamed cells.typed unnamed, cells.base64]
    simp only [spelled unnamed]
  · rw [payload_named cells.typedOther (cells.value ▸ present), payload_named cells.typed present,
      cells.value]

/-- Spelled in other letters a cell without a value is null. -/
theorem null_of_respelled (cells : Respelled tag other entries others)
    (unnamed : member "value" entries = .null) (respelled : other ≠ "blob".toList) :
    decodeCell expected (.dict others) = .ok .null := by
  have hidden : payload others = .null := by
    rw [payload_unnamed cells.typedOther (cells.value.trans unnamed), if_neg respelled]
  rw [decode_cell_typed cells.typedOther, hidden]
  exact decode_absent rfl

/-- Spelled in small letters it is the blob under its own name. -/
theorem of_small (cells : Respelled tag other entries others) (small : tag = "blob".toList)
    (unnamed : member "value" entries = .null) :
    decodeCell expected (.dict entries) = decode expected "blob" (member "base64" entries) := by
  rw [decode_cell_typed cells.typed, payload_unnamed cells.typed unnamed, if_pos small, small]

theorem alike_iff_of_small (cells : Respelled tag other entries others) (small : tag = "blob".toList)
    (respelled : other ≠ "blob".toList) (unnamed : member "value" entries = .null) :
    decodeCell expected (.dict others) = decodeCell expected (.dict entries) ↔
      ¬LosesBlob expected tag other entries := by
  rw [cells.null_of_respelled unnamed respelled, cells.of_small small unnamed]
  cases stored : isAbsent (member "base64" entries) with
  | true =>
      rw [decode_absent stored]
      refine iff_of_true rfl fun loses => ?_
      rw [loses.stored] at stored
      cases stored
  | false =>
      rw [decode_of_blob (by decide) stored, eq_comm, expected_blob_null_iff]
      constructor
      · rintro ⟨bytes, decoded, misses⟩ loses
        exact loses.wanted bytes decoded misses
      · intro kept
        by_contra none
        refine kept ⟨small, respelled, unnamed, stored, ?_⟩
        exact fun bytes decoded misses => none ⟨bytes, decoded, misses⟩

end Respelled

/-- Cells whose types differ in letter case are decoded alike, to one value or one fault, except where
one of them holds a blob that the other loses; and that one is null. -/
theorem letter_case_outcome {tag other : Text} {entries others : List (Text × Value)}
    (cells : Respelled tag other entries others) (expected : Expected) :
    (decodeCell expected (.dict others) = decodeCell expected (.dict entries) ↔
      ¬LosesBlob expected tag other entries ∧ ¬LosesBlob expected other tag others) ∧
    (LosesBlob expected tag other entries ->
      decodeCell expected (.dict others) = .ok .null ∧
      decodeCell expected (.dict entries) =
        decodeBlob (member "base64" entries) >>= expect expected) := by
  constructor
  · by_cases spelled : member "value" entries = .null ->
        (tag = "blob".toList ↔ other = "blob".toList)
    · refine iff_of_true (cells.alike (cells.same_payload spelled)) ⟨?_, ?_⟩
      · exact fun loses => loses.respelled ((spelled loses.unnamed).mp loses.small)
      · intro loses
        have unnamed := cells.value.symm.trans loses.unnamed
        exact loses.respelled ((spelled unnamed).mpr loses.small)
    · obtain ⟨unnamed, differ⟩ := Classical.not_imp.mp spelled
      by_cases small : tag = "blob".toList
      · have respelled : other ≠ "blob".toList := fun smallOther =>
          differ (iff_of_true small smallOther)
        rw [cells.alike_iff_of_small small respelled unnamed]
        exact (and_iff_left fun loses => respelled loses.small).symm
      · have smallOther : other = "blob".toList := by
          by_contra respelled
          exact differ (iff_of_false small respelled)
        have unnamedOther := cells.value.trans unnamed
        rw [eq_comm, cells.symm.alike_iff_of_small smallOther small unnamedOther]
        exact (and_iff_right fun loses => small loses.small).symm
  · intro loses
    refine ⟨cells.null_of_respelled loses.unnamed loses.respelled, ?_⟩
    rw [cells.of_small loses.small loses.unnamed]
    exact decode_of_blob (by decide) loses.stored

/-- Two bytes that are stored in a blob are null when it is called BLOB. -/
theorem letter_case_outcome_capitals :
    let entries : List (Text × Value) := [("type", .text "blob"), ("base64", .text "AQI=")]
    let others : List (Text × Value) := [("type", .text "BLOB"), ("base64", .text "AQI=")]
    Respelled "blob" "BLOB" entries others ∧
      decodeCell .anything (.dict entries) = .ok (.binary .fixed [1, 2]) ∧
      decodeCell .anything (.dict others) = .ok .null := by
  intro entries others
  have capitals : Text.lower "BLOB" = "blob".toList :=
    Text.lower_of_spelling (by decide) (by decide)
  have small : Text.lower "blob" = "blob".toList :=
    Text.lower_of_spelling (by decide) (by decide)
  have cells : Respelled "blob" "BLOB" entries others := ⟨rfl, rfl, capitals.trans small.symm, rfl, rfl⟩
  have decoded : decodeBlob (member "base64" entries) = .ok (.binary .fixed [1, 2]) := by rfl
  have loses : LosesBlob .anything "blob" "BLOB" entries :=
    ⟨rfl, by decide, rfl, rfl, fun _ _ misses => nomatch misses⟩
  obtain ⟨null, kept⟩ := (letter_case_outcome cells .anything).2 loses
  rw [decoded] at kept
  exact ⟨cells, kept, null⟩

end Wire
end SqlPipeline
