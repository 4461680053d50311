import SqlPipeline.Proofs.Bytes.Base64
import SqlPipeline.Proofs.Number.Integer
import SqlPipeline.Proofs.Outcome
import SqlPipeline.Wire.Argument
import SqlPipeline.Wire.Cell

/-!
What becomes of an argument that comes back as a cell. Empty text and empty bytes come back as null,
which the cell does not tell apart from a null that was sent; every other content is decoded as what
its tag says, and no content that was encoded is refused.
-/

namespace SqlPipeline
namespace Wire

/-- The value under which a content is sent. -/
def Content.value : Content -> Value
  | null => .null
  | integer digits => .text digits
  | real x => .real x
  | text s => .text s
  | blob base64 => .text base64

/-- The cell that says what an argument said. -/
def Content.cell (content : Content) : Value :=
  .dict [("type", .text content.tag), ("value", content.value)]

theorem decode_anything (tag : Text) (raw : Value) :
    decode .anything tag raw = decodeAs tag raw := by
  unfold decode
  cases decodeAs tag raw with
  | error fault => rfl
  | ok value => cases value <;> rfl

theorem payload_cell (content : Content) :
    payload [("type", .text content.tag), ("value", content.value)] = content.value := by
  cases content <;> rfl

theorem decode_cell_eq (content : Content) :
    decodeCell .anything content.cell = decodeAs content.tag content.value := by
  have type : member "type" [("type", .text content.tag), ("value", content.value)] =
      .text content.tag := rfl
  rw [Content.cell, decodeCell, payload_cell, type]
  exact decode_anything content.tag content.value

theorem decode_null : decodeCell .anything Content.null.cell = .ok .null :=
  rfl

theorem decode_integer {n : Int} (short : n.natAbs < 10 ^ Numeral.longest) :
    decodeCell .anything (Content.integer (Text.ofInt n)).cell = .ok (.int n) := by
  have present : isAbsent (.text (Text.ofInt n)) = false := by
    simpa [isAbsent] using Numeral.integer_text_ne_nil n
  have read : decodeInteger (.text (Text.ofInt n)) = .int n := by
    simp only [decodeInteger, Value.display?, Option.bind_eq_bind, Option.bind_some,
      Numeral.trim_integer_text, Numeral.integer_of_text short, orNull]
  have kind : Text.lower "integer".toList = "integer".toList := by decide
  have notNull : "integer".toList ≠ "null".toList := by decide
  rw [decode_cell_eq]
  change decodeAs "integer".toList (.text (Text.ofInt n)) = .ok (.int n)
  simp only [decodeAs, kind, present, notNull, Bool.false_eq_true, or_self, if_false, if_true, read]

theorem decode_real (x : Binary64) :
    decodeCell .anything (Content.real x).cell = .ok (.real x) := by
  rw [decode_cell_eq]
  rfl

theorem decode_text (s : Text) :
    decodeCell .anything (Content.text s).cell = .ok (if s = [] then .null else .text s) := by
  rw [decode_cell_eq]
  cases s with
  | nil => rfl
  | cons c rest => rfl

theorem decode_blob (bytes : Bytes) :
    decodeCell .anything (Content.blob (Base64.encode bytes)).cell =
      .ok (if bytes = [] then .null else .binary .fixed bytes) := by
  rw [decode_cell_eq]
  by_cases empty : bytes = []
  · subst empty
    rfl
  · have present : isAbsent (.text (Base64.encode bytes)) = false := by
      simpa [isAbsent, Base64.encode_eq_nil] using empty
    have read : decodeBlob (.text (Base64.encode bytes)) = .ok (.binary .fixed bytes) := by
      simp only [decodeBlob, Base64.encode_ascii, if_true, decodeBase64, Base64.decode_encode]
    have kind : Text.lower "blob".toList = "blob".toList := by decide
    have notNull : "blob".toList ≠ "null".toList := by decide
    have notInteger : "blob".toList ≠ "integer".toList := by decide
    have notReal : "blob".toList ≠ "float".toList := by decide
    change decodeAs "blob".toList (.text (Base64.encode bytes)) = _
    simp only [decodeAs, kind, present, notNull, notInteger, notReal,
      Bool.false_eq_true, or_self, if_false, if_true, read, empty]

/-- What encoding makes: a blob holds the text of some bytes. -/
def Content.IsEncoded : Content -> Prop
  | blob base64 => ∃ bytes, base64 = Base64.encode bytes
  | _ => True

theorem encode_number_encoded {value : Value} {content : Content}
    (encoded : encodeInteger value = .ok content ∨ encodeReal value = .ok content) :
    content.IsEncoded := by
  cases content with
  | blob base64 =>
      rcases encoded with encoded | encoded
      · unfold encodeInteger refuseNumber notCastable at encoded
        grind
      · unfold encodeReal refuseNumber notCastable at encoded
        grind
  | _ => trivial

theorem encode_text_encoded {value : Value} {content : Content}
    (encoded : encodeText value = .ok content) : content.IsEncoded := by
  obtain ⟨s, _, made⟩ := Outcome.bind_eq_ok.mp encoded
  cases made
  trivial

theorem stored_encoded {text? : Option Text} {content : Content}
    (encoded : stored text? = .ok content) : content.IsEncoded := by
  cases text? with
  | none => cases encoded
  | some s =>
      cases encoded
      trivial

theorem encode_time_encoded {value : Value} {content : Content}
    (encoded : encodeStamp value = .ok content ∨ encodeMoment value = .ok content ∨
      encodeSpan value = .ok content) : content.IsEncoded := by
  cases content with
  | blob base64 =>
      rcases encoded with encoded | encoded | encoded
      · unfold encodeStamp notCastable at encoded
        grind [stored_encoded]
      · unfold encodeMoment notCastable at encoded
        grind [stored_encoded]
      · unfold encodeSpan notCastable at encoded
        grind
  | _ => trivial

theorem encode_guid_encoded {value : Value} {content : Content}
    (encoded : encodeGuid value = .ok content) : content.IsEncoded := by
  unfold encodeGuid at encoded
  split at encoded
  · exact encode_text_encoded encoded
  · split at encoded
    · cases encoded
      trivial
    · exact encode_text_encoded encoded
  · exact encode_text_encoded encoded

theorem encode_blob_encoded {value : Value} {content : Content}
    (encoded : encodeBlob value = .ok content) : content.IsEncoded := by
  unfold encodeBlob at encoded
  split at encoded
  · cases encoded
    exact ⟨_, rfl⟩
  · simp [notCastable] at encoded

theorem encode_content_encoded {type : DbType} {value : Value} {content : Content}
    (encoded : encodeContent type value = .ok content) : content.IsEncoded := by
  unfold encodeContent at encoded
  by_cases null : value.isNull = true
  · rw [if_pos null] at encoded
    cases encoded
    trivial
  · rw [if_neg null] at encoded
    cases type with
    | boolean =>
        cases encoded
        trivial
    | int16 => exact encode_number_encoded (.inl encoded)
    | int32 => exact encode_number_encoded (.inl encoded)
    | int64 => exact encode_number_encoded (.inl encoded)
    | double => exact encode_number_encoded (.inr encoded)
    | decimal => exact encode_number_encoded (.inr encoded)
    | datetime => exact encode_time_encoded (.inl encoded)
    | datetimeOffset => exact encode_time_encoded (.inr (.inl encoded))
    | time => exact encode_time_encoded (.inr (.inr encoded))
    | guid => exact encode_guid_encoded encoded
    | binary => exact encode_blob_encoded encoded
    | _ => exact encode_text_encoded encoded

/-- No content that was encoded is refused when it comes back. -/
theorem decode_encoded {content : Content} (encoded : content.IsEncoded) :
    ∃ value, decodeCell .anything content.cell = .ok value := by
  cases content with
  | null => exact ⟨.null, decode_null⟩
  | integer digits =>
      rw [decode_cell_eq]
      cases digits with
      | nil => exact ⟨.null, rfl⟩
      | cons c rest => exact ⟨_, rfl⟩
  | real x => exact ⟨.real x, decode_real x⟩
  | text s => exact ⟨_, decode_text s⟩
  | blob base64 =>
      obtain ⟨bytes, rfl⟩ := encoded
      exact ⟨_, decode_blob bytes⟩

end Wire
end SqlPipeline
