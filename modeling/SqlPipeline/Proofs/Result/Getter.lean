import SqlPipeline.Proofs.Reply.Contents
import SqlPipeline.Proofs.Value.Escape

/-!
The typed getters of a reader on the tables of a reply. A getter gives a value or refuses the cell as a
cast, but for the cells that escape its type. The getters of integers give exactly the whole numbers of
their width.
-/

namespace SqlPipeline

open Cast (Escapes IsRefusal ReadsWhole Target)
open Result (Reader)

namespace Result.Reader

variable {reader : Reader} {ordinal : Int} {value : Value} {target : Target}

theorem get_present (shown : reader.value ordinal = .ok value) (present : value.isNull = false) :
    reader.get target ordinal = Cast.convert target value := by
  unfold get
  rw [shown, Outcome.ok_bind, present]
  rfl

theorem get_replaced (shown : reader.value ordinal = .ok .null) {replacement : Value}
    (found : target.ofNull? = some replacement) :
    reader.get target ordinal = Cast.convert target replacement := by
  unfold get
  rw [shown, Outcome.ok_bind, found]
  rfl

theorem get_null (shown : reader.value ordinal = .ok .null) {column : Column}
    (named : reader.column ordinal = .ok column) (none : target.ofNull? = none) :
    IsRefusal (reader.get target ordinal) := by
  refine ⟨.ofCause (.nullCell ordinal column.name target.name), ?_, rfl⟩
  unfold get
  rw [shown, Outcome.ok_bind, none]
  change reader.refuseNull ordinal target = _
  rw [refuseNull, named]
  rfl

/-- Null is read as what stands for it, where a character does not. -/
theorem get_null_cases (target : Target) (shown : reader.value ordinal = .ok .null) {column : Column}
    (named : reader.column ordinal = .ok column) :
    ((target = .text ∨ target = .uuid ∨ target = .bytes) ∧
        ∃ got, reader.get target ordinal = .ok got) ∨
      ¬(target = .text ∨ target = .uuid ∨ target = .bytes) ∧
        IsRefusal (reader.get target ordinal) := by
  cases target with
  | text => exact .inl ⟨by simp, .text [], by rw [get_replaced shown rfl]; rfl⟩
  | uuid => exact .inl ⟨by simp, .uuid Uuid.zero, by rw [get_replaced shown rfl]; rfl⟩
  | bytes => exact .inl ⟨by simp, .binary .fixed [], by rw [get_replaced shown rfl]; rfl⟩
  | char =>
      have refused : IsRefusal (Cast.char (.text [])) :=
        Cast.refuse_refusal (Value.IsCell.text []).short _
      refine .inr ⟨by simp, ?_⟩
      rw [get_replaced shown rfl]
      exact refused.map fun c => .text [c]
  | _ => exact .inr ⟨by simp, get_null shown named rfl⟩

end Result.Reader

open Result.Reader (get_present get_null get_null_cases)

variable {reply : Reply} {reader : Reader} {ordinal : Int} {value : Value}

/-- A getter gives a value or refuses the cell as a cast, or fails by a fault exactly where the cell
escapes the type. Null is read as text, as an identifier and as bytes, and else refused. -/
theorem getters_outcome (received : reply.IsReceived) (reads : reply.IsReadBy reader)
    (shown : reader.value ordinal = .ok value) (target : Target) :
    ((∃ got, reader.get target ordinal = .ok got) ∨ IsRefusal (reader.get target ordinal) ∨
      ∃ fault, reader.get target ordinal = .error (.fault fault)) ∧
    (∀ fault, reader.get target ordinal = .error (.fault fault) ↔ Escapes target value fault) ∧
    (value = .null -> ((∃ got, reader.get target ordinal = .ok got) ↔
      target = .text ∨ target = .uuid ∨ target = .bytes)) := by
  obtain ⟨cell, column, named⟩ := reply.shown_cell received reads shown
  rcases value.null_or_present with rfl | present
  · rcases get_null_cases target shown named with ⟨replaced, got, read⟩ | ⟨other, refused⟩
    · refine ⟨.inl ⟨got, read⟩, fun fault => ?_, fun _ => iff_of_true ⟨got, read⟩ replaced⟩
      rw [read]
      exact iff_of_false nofun nofun
    · refine ⟨.inr (.inl refused), fun fault => ?_, fun _ => iff_of_false ?_ other⟩
      · exact iff_of_false (refused.not_fault fault) nofun
      · rintro ⟨got, read⟩
        exact refused.not_ok got read
  · rw [get_present shown present]
    have settled := Cast.convert_settles target cell
    refine ⟨?_, settled, ?_⟩
    · have only := Cast.convert_only target value
      cases read : Cast.convert target value with
      | ok got => exact .inl ⟨got, rfl⟩
      | error failure =>
          have cast := only failure read
          cases failure with
          | library error => exact .inr (.inl ⟨error, rfl, cast⟩)
          | fault fault => exact .inr (.inr ⟨fault, rfl⟩)
          | canceled sql => exact cast.elim
    · rintro rfl
      cases present

/-- A reply with an integer as its only cell. -/
def numberReply (digits : Text) : Reply :=
  ⟨⟨none, none, [⟨none, some ⟨"execute", some ⟨[⟨none, none⟩],
    [[.dict [("type", .text "integer"), ("value", .text digits)]]], 0, none⟩⟩, none⟩]⟩, [], [], 200⟩

theorem number_reply_received (digits : Text) : (numberReply digits).IsReceived := by
  intro entry member result found row inside cell own
  rw [List.mem_singleton.mp member] at found
  cases found
  rw [List.mem_singleton.mp inside, List.mem_singleton] at own
  refine ⟨.object [("type", .text "integer"), ("value", .text digits)], .object ?_, own.symm⟩
  simp only [List.forall_mem_cons]
  exact ⟨.text _, .text _, List.forall_mem_nil _⟩

/-- A reader on the row of such a reply. -/
def numberReader (n : Int) : Reader :=
  ⟨[⟨[⟨"Column0", .text, none⟩], [[.int n]]⟩], some [.int n], [], false, -1⟩

/-- The second after the last one of the calendar is an integer, but no stamp. -/
theorem getters_outcome_past_calendar :
    (numberReply "253402300800").IsReceived ∧
      (numberReply "253402300800").IsReadBy (numberReader 253402300800) ∧
      (numberReader 253402300800).value 0 = .ok (.int 253402300800) ∧
      (numberReader 253402300800).get .stamp 0 = .error (.fault .outOfRange) := by
  have received := number_reply_received "253402300800"
  have reads : (numberReply "253402300800").IsReadBy (numberReader 253402300800) :=
    ⟨⟨[], [], .null, .null⟩, _, [.read], rfl, rfl⟩
  have shown : (numberReader 253402300800).value 0 = .ok (.int 253402300800) := rfl
  refine ⟨received, reads, shown, ?_⟩
  apply ((getters_outcome received reads shown .stamp).2.1 _).mpr
  exact .stampSeconds (by simp [Time.Epoch.IsSecond])

/-- What a cast reads of cells that are whole numbers of a class, its getter reads of a reply. -/
theorem get_reads {P : Int -> Prop} {target : Target} (received : reply.IsReceived)
    (reads : reply.IsReadBy reader) (shown : reader.value ordinal = .ok value)
    (none : target.ofNull? = none)
    (cast : ∀ {value : Value}, ¬value.HoldsOverlong ->
      ReadsWhole P value (Cast.convert target value)) :
    ReadsWhole P value (reader.get target ordinal) := by
  obtain ⟨cell, column, named⟩ := reply.shown_cell received reads shown
  rcases value.null_or_present with rfl | present
  · exact .inr ⟨nofun, get_null shown named none⟩
  · rw [get_present shown present]
    exact cast cell.short

theorem wider_in_range {n : Int} :
    (Width.int16.InRange n -> Width.int32.InRange n) ∧
      (Width.int32.InRange n -> Width.int64.InRange n) := by
  simp only [Width.InRange]
  omega

/-- The getter of a width gives the number that a cell is when the width holds it, and refuses all
other cells; so does the getter of bytes. What a narrower getter gives, a wider one gives too. -/
theorem integer_getters_exact (received : reply.IsReceived) (reads : reply.IsReadBy reader)
    (shown : reader.value ordinal = .ok value) :
    (∀ (width : Width) (got : Value), reader.get width.target ordinal = .ok got ↔
      ∃ n, got = .int n ∧ value.IsWhole n ∧ width.InRange n) ∧
    (∀ width : Width, (∀ n, value.IsWhole n -> ¬width.InRange n) ->
      IsRefusal (reader.get width.target ordinal)) ∧
    (∀ got, reader.get .byte ordinal = .ok got ↔
      ∃ n, got = .int n ∧ value.IsWhole n ∧ 0 ≤ n ∧ n ≤ 255) ∧
    ((∀ n, value.IsWhole n -> ¬(0 ≤ n ∧ n ≤ 255)) -> IsRefusal (reader.get .byte ordinal)) ∧
    (∀ got, reader.get .byte ordinal = .ok got -> reader.get .int16 ordinal = .ok got) ∧
    (∀ got, reader.get .int16 ordinal = .ok got -> reader.get .int32 ordinal = .ok got) ∧
    ∀ got, reader.get .int32 ordinal = .ok got -> reader.get .int64 ordinal = .ok got := by
  have byte : ReadsWhole Cast.IsByte value (reader.get .byte ordinal) :=
    get_reads received reads shown rfl Cast.byte_reads
  have ofWidth (width : Width) : ReadsWhole width.InRange value (reader.get width.target ordinal) :=
    get_reads received reads shown (by cases width <;> rfl) (Cast.width_reads width)
  refine ⟨fun width got => (ofWidth width).ok_iff, fun width => (ofWidth width).refused,
    fun got => byte.ok_iff, byte.refused, ?_, ?_, ?_⟩
  · exact fun got => byte.wider (ofWidth .int16) fun n => Cast.byte_in_range
  · exact fun got => (ofWidth .int16).wider (ofWidth .int32) fun n => wider_in_range.1
  · exact fun got => (ofWidth .int32).wider (ofWidth .int64) fun n => wider_in_range.2

/-- A number just above those of 16 bits. -/
theorem integer_getters_exact_above :
    (numberReply "32768").IsReceived ∧ (numberReply "32768").IsReadBy (numberReader 32768) ∧
      (numberReader 32768).value 0 = .ok (.int 32768) ∧
      IsRefusal ((numberReader 32768).get .int16 0) ∧
      (numberReader 32768).get .int32 0 = .ok (.int 32768) := by
  have received := number_reply_received "32768"
  have reads : (numberReply "32768").IsReadBy (numberReader 32768) :=
    ⟨⟨[], [], .null, .null⟩, _, [.read], rfl, rfl⟩
  have shown : (numberReader 32768).value 0 = .ok (.int 32768) := rfl
  obtain ⟨read, refused, -⟩ := integer_getters_exact received reads shown
  refine ⟨received, reads, shown, ?_, ?_⟩
  · apply refused .int16
    intro n whole
    rw [whole.unique (.int 32768)]
    decide
  · exact (read .int32 _).mpr ⟨32768, rfl, .int 32768, by decide⟩

end SqlPipeline
