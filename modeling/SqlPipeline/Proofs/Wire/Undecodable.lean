import SqlPipeline.Proofs.Number.Overflow
import SqlPipeline.Proofs.Value.Overlong
import SqlPipeline.Proofs.Wire.Cell
import SqlPipeline.Proofs.Wire.Response

/-!
Received cells that cannot be decoded. A blob may be no valid Base64, which is content that cannot
be used; a type that is no text, and a whole number too great for the real number that it is said to
be, are faults of another kind. There are no others.
-/

namespace SqlPipeline
namespace Wire

open Json (Node)

/-- A whole number that no real number is near to. -/
def IsTooGreat (n : Int) : Prop :=
  Value.realOfInteger n = .error .outOfRange

inductive IsBrokenBlob : Value -> Prop where
  | blob {entries : List (Text × Value)} {tag : Text} (typed : member "type" entries = .text tag)
      (kind : Text.lower tag = "blob".toList) (present : isAbsent (payload entries) = false)
      (broken : ∀ s, payload entries = .text s ->
        s.all Text.isAscii = false ∨ Base64.decode? s = none) :
      IsBrokenBlob (.dict entries)

/-- A cell whose type is neither text nor empty, or that is a whole number where it is said to be a
real number and is too great for one. -/
inductive IsUnaccounted : Value -> Prop where
  | type {entries : List (Text × Value)} (given : (member "type" entries).holds = true)
      (other : ∀ tag, member "type" entries ≠ .text tag) : IsUnaccounted (.dict entries)
  | real {entries : List (Text × Value)} {tag : Text} {n : Int}
      (typed : member "type" entries = .text tag) (kind : Text.lower tag = "float".toList)
      (raw : member "value" entries = .int n) (great : IsTooGreat n) :
      IsUnaccounted (.dict entries)

/-- A value of a document that cannot be decoded and is no broken blob, and the fault that comes of
it. Its integers may be of any length. -/
inductive EscapesDecoding : Value -> Fault -> Prop where
  | type {entries : List (Text × Value)} (given : (member "type" entries).holds = true)
      (other : ∀ tag, member "type" entries ≠ .text tag) :
      EscapesDecoding (.dict entries) .noMember
  | real {entries : List (Text × Value)} {tag : Text} {n : Int}
      (typed : member "type" entries = .text tag) (kind : Text.lower tag = "float".toList)
      (raw : member "value" entries = .int n) (great : Binary64.overflow ≤ n.natAbs) :
      EscapesDecoding (.dict entries) .outOfRange
  | overlong {entries : List (Text × Value)} {tag : Text}
      (typed : member "type" entries = .text tag) (kind : Text.lower tag = "text".toList)
      (held : (member "value" entries).HoldsOverlong) :
      EscapesDecoding (.dict entries) .badContent

/-! What is received. -/

theorem IsReceived.short {value : Value} (received : IsReceived value) : ¬value.HoldsOverlong := by
  obtain ⟨node, short, rfl⟩ := received
  obtain ⟨s, shown⟩ := Json.display_short short
  rw [← Value.display_none_iff, shown]
  nofun

theorem lookup_received (name : Text) (members : List (Text × Node)) :
    Members.lookup name (Node.toEntries members) = (Members.lookup name members).map Node.toValue := by
  induction members with
  | nil => rfl
  | cons first rest ih =>
      rw [Node.toEntries, Members.lookup_cons, Members.lookup_cons]
      by_cases same : first.1 = name
      · rw [if_pos same, if_pos same, Option.map_some]
      · rw [if_neg same, if_neg same, ih]

theorem member_received {entries : List (Text × Value)} (received : IsReceived (.dict entries))
    (name : Text) : IsReceived (member name entries) := by
  obtain ⟨node, short, shown⟩ := received
  cases short with
  | @object members each =>
      cases shown
      rw [member, lookup_received]
      cases found : Members.lookup name members with
      | none => exact ⟨.null, .null, rfl⟩
      | some part => exact ⟨part, Json.lookup_short each found, rfl⟩
  | _ => cases shown

/-- A payload is null or a member. -/
theorem payload_holds {P : Value -> Prop} {entries : List (Text × Value)} (null : P .null)
    (each : ∀ name, P (member name entries)) : P (payload entries) := by
  unfold payload
  split
  · split
    · exact each _
    · exact null
  · exact each _

theorem payload_received {entries : List (Text × Value)} (received : IsReceived (.dict entries)) :
    IsReceived (payload entries) :=
  payload_holds ⟨.null, .null, rfl⟩ (member_received received)

theorem member_json {entries : List (Text × Value)} (json : IsJson (.dict entries)) (name : Text) :
    IsJson (member name entries) := by
  obtain ⟨node, shown⟩ := json
  cases node with
  | object members =>
      cases shown
      rw [member, lookup_received]
      cases Members.lookup name members with
      | none => exact ⟨.null, rfl⟩
      | some part => exact ⟨part, rfl⟩
  | _ => cases shown

theorem payload_json {entries : List (Text × Value)} (json : IsJson (.dict entries)) :
    IsJson (payload entries) :=
  payload_holds ⟨.null, rfl⟩ (member_json json)

/-- Only a blob has its payload elsewhere. -/
theorem payload_of_value {entries : List (Text × Value)} {tag : Text}
    (typed : member "type" entries = .text tag) (other : Text.lower tag ≠ "blob".toList) :
    payload entries = member "value" entries := by
  have unlike : tag ≠ "blob".toList := by
    rintro rfl
    exact other (by decide)
  unfold payload
  rw [typed]
  cases found : member "value" entries with
  | null => exact if_neg unlike
  | _ => rfl

/-! Decoding. -/

theorem or_malformed_in_range {α : Type} {x : Option α} :
    Value.orMalformed x ≠ .error .outOfRange := by
  cases x with
  | none => nofun
  | some x => nofun

theorem too_great_iff {n : Int} : IsTooGreat n ↔ Binary64.overflow ≤ n.natAbs := by
  -- The conversion is opened as a function; applied to a number, it would be computed.
  obtain ⟨convert, opened⟩ : ∃ convert, convert = Value.realOfInteger := ⟨_, rfl⟩
  rw [← Binary64.of_int_infinite_iff, IsTooGreat, ← opened]
  delta Value.realOfInteger at opened
  rw [opened]
  beta_reduce
  generalize Binary64.ofInt n = x
  cases x with
  | infinity negative => exact iff_of_true rfl ⟨negative, rfl⟩
  | nan => exact iff_of_false nofun nofun
  | finite negative rank => exact iff_of_false nofun nofun

theorem flag_in_range (b : Bool) :
    (Value.realOfInteger (if b then 1 else 0)).toOption.isSome = true := by
  cases b with
  | true => decide +kernel
  | false => decide +kernel

/-- Only a whole number can be too great to be a real number. -/
theorem real_out_of_range_iff {raw : Value} :
    raw.realNumber = .error .outOfRange ↔ ∃ n, raw = .int n ∧ IsTooGreat n := by
  cases raw with
  | int n =>
      constructor
      · exact fun great => ⟨n, rfl, great⟩
      · rintro ⟨own, same, great⟩
        cases same
        exact great
  | bool b =>
      refine iff_of_false ?_ nofun
      change Value.realOfInteger (if b then 1 else 0) ≠ .error .outOfRange
      intro great
      have inRange := flag_in_range b
      rw [great] at inRange
      cases inRange
  | text s => exact iff_of_false or_malformed_in_range nofun
  | decimal d => exact iff_of_false or_malformed_in_range nofun
  | binary holder bytes => exact iff_of_false or_malformed_in_range nofun
  | _ => exact iff_of_false nofun nofun

theorem decode_real_error_iff {raw : Value} {fault : Fault} :
    decodeReal raw = .error fault ↔ fault = .outOfRange ∧ ∃ n, raw = .int n ∧ IsTooGreat n := by
  rw [← real_out_of_range_iff, decodeReal]
  cases raw.realNumber with
  | ok x => simp
  | error reason =>
      cases reason with
      | outOfRange => simp [eq_comm]
      | _ => simp

theorem decode_base64_cases (s : Text) :
    (∃ value, decodeBase64 s = .ok value ∧ Base64.decode? s ≠ none) ∨
      (∃ reason, decodeBase64 s = .error (.badBlob reason) ∧ Base64.decode? s = none) := by
  unfold decodeBase64
  cases Base64.decode? s with
  | some bytes => exact .inl ⟨_, rfl, nofun⟩
  | none => exact .inr ⟨_, rfl, rfl⟩

/-- A blob is decoded, or fails for its content, which is no valid Base64. -/
theorem decode_blob_cases {raw : Value} (json : IsJson raw) :
    (∃ value s, decodeBlob raw = .ok value ∧ raw = .text s ∧ s.all Text.isAscii = true ∧
        Base64.decode? s ≠ none) ∨
      ∃ fault, decodeBlob raw = .error fault ∧ fault.isContent = true ∧
        ∀ s, raw = .text s -> s.all Text.isAscii = false ∨ Base64.decode? s = none := by
  obtain ⟨node, rfl⟩ := json
  cases node with
  | text s =>
      by_cases ascii : s.all Text.isAscii = true
      · have read : decodeBlob (.text s) = decodeBase64 s := if_pos ascii
        rcases decode_base64_cases s with ⟨value, decoded, valid⟩ | ⟨reason, decoded, invalid⟩
        · exact .inl ⟨value, s, read.trans decoded, rfl, ascii, valid⟩
        · refine .inr ⟨_, read.trans decoded, rfl, ?_⟩
          intro same shown
          cases shown
          exact .inr invalid
      · have read : decodeBlob (.text s) = .error .badContent := if_neg ascii
        refine .inr ⟨_, read, rfl, ?_⟩
        intro same shown
        cases shown
        exact .inl (Bool.eq_false_iff.mpr ascii)
  | _ => exact .inr ⟨_, rfl, rfl, nofun⟩

theorem decode_text_received {raw : Value} (received : IsReceived raw) :
    ∃ s, decodeText raw = .ok (.text s) := by
  obtain ⟨node, short, rfl⟩ := received
  obtain ⟨s, shown⟩ := Json.display_short short
  exact ⟨s, by rw [decodeText, shown]; rfl⟩

/-- What becomes of a cell of a type that is text. -/
theorem decode_typed {entries : List (Text × Value)} {tag : Text}
    (typed : member "type" entries = .text tag) :
    decodeCell .anything (.dict entries) = decodeAs tag (payload entries) := by
  rw [decodeCell, typed]
  exact decode_anything tag (payload entries)

theorem overlong_present {raw : Value} (held : raw.HoldsOverlong) : isAbsent raw = false := by
  cases held <;> rfl

theorem absent_real {raw : Value} (absent : isAbsent raw = true) : decodeReal raw = .ok .null := by
  cases raw with
  | null => rfl
  | text s =>
      rw [List.isEmpty_iff.mp absent]
      rfl
  | _ => cases absent

theorem decode_text_error_iff {raw : Value} {fault : Fault} :
    decodeText raw = .error fault ↔ raw.HoldsOverlong ∧ fault = .badContent := by
  rw [← Value.display_none_iff, decodeText]
  cases raw.display? with
  | some s => exact iff_of_false nofun nofun
  | none =>
      change Except.error Fault.badContent = Except.error fault ↔ _
      simp [eq_comm]

/-- Only a real number, a blob and text can fail to be decoded. -/
theorem decode_as_error_iff {tag : Text} {raw : Value} {fault : Fault} :
    decodeAs tag raw = .error fault ↔
      Text.lower tag = "float".toList ∧ decodeReal raw = .error fault ∨
      Text.lower tag = "blob".toList ∧ isAbsent raw = false ∧ decodeBlob raw = .error fault ∨
      Text.lower tag = "text".toList ∧ raw.HoldsOverlong ∧ fault = .badContent := by
  unfold decodeAs
  dsimp only
  split_ifs with null integer real blob text
  · refine iff_of_false nofun ?_
    rcases null with null | absent
    · simp [null]
    · rintro (⟨-, failed⟩ | ⟨-, present, -⟩ | ⟨-, held, -⟩)
      · rw [absent_real absent] at failed
        cases failed
      · rw [absent] at present
        cases present
      · rw [overlong_present held] at absent
        cases absent
  · simp [integer]
  · simp [real]
  · have present : isAbsent raw = false := Bool.eq_false_iff.mpr fun absent => null (.inr absent)
    simp [blob, present]
  · simp [text, decode_text_error_iff]
  · simp only [real, blob, text, false_and, or_self]

theorem decode_as_blob {tag : Text} {raw : Value} (kind : Text.lower tag = "blob".toList)
    (present : isAbsent raw = false) : decodeAs tag raw = decodeBlob raw := by
  have notNull : ¬("blob".toList = "null".toList ∨ isAbsent raw = true) := by
    rintro (same | absent)
    · exact absurd same (by decide)
    · rw [present] at absent
      cases absent
  have notInteger : "blob".toList ≠ "integer".toList := by decide
  have notReal : "blob".toList ≠ "float".toList := by decide
  simp only [decodeAs, kind, if_neg notNull, if_neg notInteger, if_neg notReal, if_true]

theorem cell_tag_untyped {type : Value} (json : IsJson type)
    (other : ∀ tag, type ≠ .text tag) :
    cellTag type = if type.holds then .error .noMember else .ok [] := by
  obtain ⟨node, rfl⟩ := json
  cases node with
  | text tag => exact absurd rfl (other tag)
  | _ => rfl

/-- A record is decoded as the type that it says, or as no type; else it has no type that names one. -/
theorem decode_record_cases {entries : List (Text × Value)} (json : IsJson (.dict entries)) :
    (∃ tag, member "type" entries = .text tag ∧
      decodeCell .anything (.dict entries) = decodeAs tag (payload entries)) ∨
    (∀ tag, member "type" entries ≠ .text tag) ∧
      ((member "type" entries).holds = true ∧
          decodeCell .anything (.dict entries) = .error .noMember ∨
        (member "type" entries).holds = false ∧
          decodeCell .anything (.dict entries) = decodeAs [] (payload entries)) := by
  by_cases text : ∃ tag, member "type" entries = .text tag
  · obtain ⟨tag, typed⟩ := text
    exact .inl ⟨tag, typed, decode_typed typed⟩
  · have other : ∀ tag, member "type" entries ≠ .text tag := fun tag typed => text ⟨tag, typed⟩
    refine .inr ⟨other, ?_⟩
    rw [decodeCell, cell_tag_untyped (member_json json "type") other]
    cases (member "type" entries).holds with
    | true => exact .inl ⟨rfl, rfl⟩
    | false => exact .inr ⟨rfl, decode_anything [] (payload entries)⟩

section

variable {cell : Value} {fault : Fault}

/-- A cell that cannot be decoded is a broken blob, and then its content is at fault, or it escapes. -/
theorem decode_fails (json : IsJson cell) (failed : decodeCell .anything cell = .error fault) :
    IsBrokenBlob cell ∧ fault.isContent = true ∨ EscapesDecoding cell fault := by
  cases cell with
  | dict entries =>
      rcases decode_record_cases json with
        ⟨tag, typed, decoded⟩ | ⟨other, ⟨given, decoded⟩ | ⟨-, decoded⟩⟩
      · rw [decoded, decode_as_error_iff] at failed
        rcases failed with ⟨kind, lost⟩ | ⟨kind, present, invalid⟩ | ⟨kind, held, rfl⟩
        · obtain ⟨rfl, n, raw, great⟩ := decode_real_error_iff.mp lost
          rw [payload_of_value typed (by rw [kind]; decide)] at raw
          exact .inr (.real typed kind raw (too_great_iff.mp great))
        · rcases decode_blob_cases (payload_json json) with
            ⟨value, s, read, -⟩ | ⟨own, lost, content, broken⟩
          · rw [read] at invalid
            cases invalid
          · rw [lost] at invalid
            cases invalid
            exact .inl ⟨.blob typed kind present broken, content⟩
        · rw [payload_of_value typed (by rw [kind]; decide)] at held
          exact .inr (.overlong typed kind held)
      · rw [decoded] at failed
        cases failed
        exact .inr (.type given other)
      · rw [decoded, decode_as_error_iff] at failed
        rcases failed with ⟨kind, -⟩ | ⟨kind, -⟩ | ⟨kind, -⟩ <;> cases kind
  | _ => cases failed

theorem EscapesDecoding.decode (json : IsJson cell) (escapes : EscapesDecoding cell fault) :
    decodeCell .anything cell = .error fault := by
  cases escapes with
  | type given other =>
      rcases decode_record_cases json with
        ⟨tag, typed, -⟩ | ⟨-, ⟨-, decoded⟩ | ⟨missing, -⟩⟩
      · exact absurd typed (other tag)
      · exact decoded
      · rw [given] at missing
        cases missing
  | real typed kind raw great =>
      have lost : decodeReal (.int _) = .error .outOfRange :=
        decode_real_error_iff.mpr ⟨rfl, _, rfl, too_great_iff.mpr great⟩
      rw [decode_typed typed, payload_of_value typed (by rw [kind]; decide), raw]
      exact decode_as_error_iff.mpr (.inl ⟨kind, lost⟩)
  | overlong typed kind held =>
      rw [decode_typed typed, payload_of_value typed (by rw [kind]; decide)]
      exact decode_as_error_iff.mpr (.inr (.inr ⟨kind, held, rfl⟩))

theorem decode_broken_blob (json : IsJson cell) (broken : IsBrokenBlob cell) :
    ∃ fault, decodeCell .anything cell = .error fault ∧ fault.isContent = true := by
  obtain ⟨typed, kind, present, invalid⟩ := broken
  rcases decode_blob_cases (payload_json json) with
    ⟨value, s, -, same, ascii, valid⟩ | ⟨fault, failed, content, -⟩
  · rcases invalid s same with other | other
    · rw [ascii] at other
      cases other
    · exact absurd other valid
  · exact ⟨fault, by rw [decode_typed typed, decode_as_blob kind present, failed], content⟩

/-- A received cell that escapes is unaccounted for, since none of its integers is too long. -/
theorem EscapesDecoding.unaccounted (received : IsReceived cell)
    (escapes : EscapesDecoding cell fault) :
    IsUnaccounted cell ∧ fault.isContent = false := by
  cases escapes with
  | type given other => exact ⟨.type given other, rfl⟩
  | real typed kind raw great => exact ⟨.real typed kind raw (too_great_iff.mpr great), rfl⟩
  | overlong typed kind held => exact absurd held (member_received received "value").short

theorem decode_cell_fails (received : IsReceived cell)
    (failed : decodeCell .anything cell = .error fault) :
    (IsBrokenBlob cell ∧ fault.isContent = true) ∨
      (IsUnaccounted cell ∧ fault.isContent = false) :=
  (decode_fails received.json failed).imp_right fun escapes => escapes.unaccounted received

end

theorem decode_unaccounted {cell : Value} (received : IsReceived cell) (lost : IsUnaccounted cell) :
    ∃ fault, decodeCell .anything cell = .error fault ∧ fault.isContent = false := by
  cases lost with
  | type given other => exact ⟨_, (EscapesDecoding.type given other).decode received.json, rfl⟩
  | real typed kind raw great =>
      have escapes := EscapesDecoding.real typed kind raw (too_great_iff.mp great)
      exact ⟨_, escapes.decode received.json, rfl⟩

/-- A received cell fails outside of its content exactly when it is unaccounted for. -/
theorem unaccounted_iff {cell : Value} (received : IsReceived cell) :
    (∃ fault, decodeCell .anything cell = .error fault ∧ fault.isContent = false) ↔
      IsUnaccounted cell := by
  constructor
  · rintro ⟨fault, failed, outside⟩
    rcases decode_cell_fails received failed with ⟨-, content⟩ | ⟨lost, -⟩
    · rw [outside] at content
      cases content
    · exact lost
  · exact decode_unaccounted received

theorem undecodable_iff {cell : Value} (received : IsReceived cell) :
    (∃ fault, decodeCell .anything cell = .error fault) ↔ IsBrokenBlob cell ∨ IsUnaccounted cell := by
  constructor
  · rintro ⟨fault, failed⟩
    exact (decode_cell_fails received failed).imp And.left And.left
  · rintro (broken | lost)
    · obtain ⟨fault, failed, -⟩ := decode_broken_blob received.json broken
      exact ⟨fault, failed⟩
    · obtain ⟨fault, failed, -⟩ := decode_unaccounted received lost
      exact ⟨fault, failed⟩

/-- An answer whose first cell cannot be decoded. -/
def ResponseEntry.IsUnreadable (entry : ResponseEntry) : Prop :=
  ∃ result, entry.result? = some result ∧ result.rows ≠ [] ∧
    (IsBrokenBlob result.firstCell ∨ IsUnaccounted result.firstCell)

end Wire
end SqlPipeline
