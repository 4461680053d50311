import SqlPipeline.Proofs.Sql.Lexeme
import SqlPipeline.Sql.TableName

/-!
References to a table, written out. A name is written between double quotes or as a bare word, and
a schema before it ends with a dot, with any blanks around it. Behind a command and a gap the names
of a reference are read back, whatever follows that cannot continue it.
-/

namespace SqlPipeline
namespace Sql
namespace TableName

/-- A name between double quotes. -/
def enclosed (name : Text) : Text :=
  '"' :: (name ++ ['"'])

namespace Name

def written : Name -> Text
  | quoted name => enclosed name
  | bare word => word

def plain : Name -> Text
  | quoted name => name
  | bare word => word

/-- A name between quotes is not empty and holds no quote; a bare one starts with a letter or an
underscore of ASCII and goes on with word characters. -/
def IsSound : Name -> Prop
  | quoted name => name ≠ [] ∧ '"' ∉ name
  | bare word => ∃ first rest, word = first :: rest ∧ startsName first = true ∧
      ∀ c ∈ rest, Text.isWordChar c = true

theorem text_of_sound {name : Name} (sound : name.IsSound) : name.text? = some name.plain := by
  cases name with
  | quoted name => rfl
  | bare word =>
      obtain ⟨first, rest, rfl, starts, _⟩ := sound
      simp [text?, starts, plain]

end Name

section Names

variable {name : Name} {rest : Text} {c : Char}

theorem starts_ascii (starts : startsName c = true) : c.toNat < 128 := by
  have word : Text.isAsciiWordChar c = true := by
    simp only [startsName, Bool.or_eq_true] at starts
    simp only [Text.isAsciiWordChar, Bool.or_eq_true]
    exact .inl starts
  have code := ascii_word_code word
  omega

theorem starts_folded (starts : startsName c = true) : startsName (foldLetter c) = true :=
  Text.ascii_cases (P := fun c => startsName c = true -> startsName (foldLetter c) = true)
    (by decide) (starts_ascii starts) starts

theorem name_of_enclosed {content : Text} (nonempty : content ≠ []) (whole : '"' ∉ content)
    (rest : Text) : name? (enclosed content ++ rest) = some (.quoted content, rest) := by
  have inside : ∀ c ∈ content, decide (c ≠ '"') = true := by
    intro c member
    simp only [ne_eq, decide_not, Bool.not_eq_eq_eq_not, Bool.not_true, decide_eq_false_iff_not]
    rintro rfl
    exact whole member
  have closing : ∀ c ∈ ('"' :: rest).head?, decide (c ≠ '"') = false := by
    intro c head
    cases head
    rfl
  have taken := Text.take_while_run ('"' :: rest) inside closing
  have left := Text.drop_while_run ('"' :: rest) inside closing
  rw [enclosed, List.cons_append, List.append_assoc, List.singleton_append, name?, taken, left]
  simp [nonempty]

theorem name_of_written (sound : name.IsSound) (stop : EndsWord rest) :
    name? (name.written ++ rest) = some (name, rest) := by
  cases name with
  | quoted name => exact name_of_enclosed sound.1 sound.2 rest
  | bare word =>
      obtain ⟨first, word, rfl, starts, all⟩ := sound
      have other : first ≠ '"' := by
        rintro rfl
        exact absurd starts (by decide)
      have taken := Text.take_while_run rest all stop
      have left := Text.drop_while_run rest all stop
      rw [Name.written, List.cons_append, name?, taken, left, if_pos (starts_folded starts)]
      exact other

/-- Whatever follows a name, one is read there: a bare word goes on as far as word characters do. -/
theorem name_begins (sound : name.IsSound) (rest : Text) :
    ∃ whole later, whole.IsSound ∧ name? (name.written ++ rest) = some (whole, later) := by
  cases name with
  | quoted name => exact ⟨.quoted name, rest, sound, name_of_enclosed sound.1 sound.2 rest⟩
  | bare word =>
      obtain ⟨first, word, rfl, starts, all⟩ := sound
      have longer : (Name.bare (first :: (word ++ rest.takeWhile Text.isWordChar))).IsSound := by
        refine ⟨first, _, rfl, starts, ?_⟩
        intro c member
        rcases List.mem_append.mp member with own | taken
        · exact all c own
        · exact List.mem_takeWhile_imp taken
      have read := name_of_written longer (Text.drop_while_head (p := Text.isWordChar) (s := rest))
      rw [Name.written, List.cons_append, List.append_assoc, List.takeWhile_append_dropWhile] at read
      exact ⟨_, _, longer, read⟩

theorem written_solid (sound : name.IsSound) (rest : Text) : IsSolid (name.written ++ rest) := by
  cases name with
  | quoted name => exact mark_solid (by decide) _
  | bare word =>
      obtain ⟨first, word, rfl, starts, _⟩ := sound
      apply mark_solid
      apply word_not_blank
      apply word_of_ascii
      simp only [startsName, Bool.or_eq_true] at starts
      simp only [Text.isAsciiWordChar, Bool.or_eq_true]
      exact .inl starts

end Names

/-- A reference to a table: a name, or a schema and a name. -/
inductive Reference where
  | single (name : Name) (sound : name.IsSound)
  | qualified (schema : Name) (before after : Blanks) (name : Name) (schemaSound : schema.IsSound)
      (sound : name.IsSound)

namespace Reference

def written : Reference -> Text
  | single name _ => name.written
  | qualified schema before after name _ _ =>
      schema.written ++ (before.text ++ '.' :: (after.text ++ name.written))

def names : Reference -> List Text
  | single name _ => [name.plain]
  | qualified schema _ _ name _ _ => [schema.plain, name.plain]

theorem names_ne_nil (reference : Reference) : reference.names ≠ [] := by
  cases reference <;> simp [names]

theorem solid (reference : Reference) (rest : Text) : IsSolid (reference.written ++ rest) := by
  cases reference with
  | single name sound => exact written_solid sound rest
  | qualified schema before after name schemaSound sound =>
      rw [written, List.append_assoc]
      exact written_solid schemaSound _

end Reference

/-- What comes after a reference and is no part of it: it starts with no word character, and with no
dot after any blanks. -/
def EndsReference (rest : Text) : Prop :=
  EndsWord rest ∧ (Text.trimStart rest).head? ≠ some '.'

/-- A word that is no part of a reference and starts with no dot ends it. -/
theorem keyword_ends_reference {keyword gap word : Text} (blank : IsGap gap)
    (spelled : word.map foldLetter = keyword) (nonempty : keyword ≠ []) (solid : IsSolid keyword)
    (noDot : keyword.head? ≠ some '.') (rest : Text) : EndsReference (gap ++ (word ++ rest)) := by
  have trimmed : Text.trimStart (gap ++ (word ++ rest)) = word ++ rest :=
    trim_start_iff.mpr ⟨_, blank.2, rfl, keyword_solid spelled nonempty solid rest⟩
  refine ⟨gap_ends_word blank _, ?_⟩
  rw [trimmed]
  intro dot
  have letter := keyword_head spelled nonempty rest
  rw [dot] at letter
  exact noDot letter.symm

section References

variable {rest : Text}

theorem unqualified (ends : EndsReference rest) : qualified? rest = none := by
  have missing : afterChar? '.' (Text.trimStart rest) = none := by
    rw [Option.eq_none_iff_forall_ne_some]
    intro later found
    apply ends.2
    rw [after_char_iff.mp found]
    rfl
  rw [qualified?, missing]
  rfl

theorem qualified_of_written {name : Name} (before after : Blanks) (sound : name.IsSound)
    (stop : EndsWord rest) :
    qualified? (before.text ++ '.' :: (after.text ++ (name.written ++ rest))) = some name := by
  have dotted : Text.trimStart (before.text ++ '.' :: (after.text ++ (name.written ++ rest))) =
      '.' :: (after.text ++ (name.written ++ rest)) :=
    trim_start_iff.mpr ⟨before.text, before.blank, rfl, mark_solid (by decide) _⟩
  have named : Text.trimStart (after.text ++ (name.written ++ rest)) = name.written ++ rest :=
    trim_start_iff.mpr ⟨after.text, after.blank, rfl, written_solid sound rest⟩
  rw [qualified?, dotted]
  change ((name? (Text.trimStart (after.text ++ (name.written ++ rest)))).bind fun read =>
    some read.1) = some name
  rw [named, name_of_written sound stop]
  rfl

/-- Behind its command a reference is read as the names in it. -/
theorem reference_of_written (reference : Reference) (ends : EndsReference rest) {s : Text}
    (command : afterCommand? s = some (reference.written ++ rest)) :
    reference? s = some reference.names := by
  rw [reference?, command]
  cases reference with
  | single name sound =>
      have read := name_of_written sound ends.1
      change ((name? (name.written ++ rest)).bind fun read =>
        some ((read.1 :: (qualified? read.2).toList).filterMap Name.text?)) = _
      rw [read, Option.bind_some, unqualified ends]
      simp [Name.text_of_sound sound, Reference.names]
  | qualified schema before after name schemaSound sound =>
      have stop : EndsWord (before.text ++ '.' :: (after.text ++ (name.written ++ rest))) :=
        blanks_end_word before.blank (mark_ends_word (by decide +kernel) _)
      have read := name_of_written schemaSound stop
      have second := qualified_of_written before after sound ends.1
      change ((name? (schema.written ++ (before.text ++ '.' :: (after.text ++ name.written)) ++
        rest)).bind fun read =>
          some ((read.1 :: (qualified? read.2).toList).filterMap Name.text?)) = _
      simp only [List.append_assoc, List.cons_append]
      rw [read, Option.bind_some, second]
      simp [Name.text_of_sound sound, Name.text_of_sound schemaSound, Reference.names]

end References

/-- The words that announce the table whose rows a statement changes or removes. -/
inductive Command where
  | update (word : Cased "update")
  | delete (word : Cased "delete") (gap : Gap) (origin : Cased "from")

namespace Command

def written : Command -> Text
  | update word => word.text
  | delete word gap origin => word.text ++ (gap.text ++ origin.text)

theorem after_written (command : Command) (gap : Gap) {rest : Text} (solid : IsSolid rest) :
    afterCommand? (command.written ++ (gap.text ++ rest)) = some rest := by
  have left : Text.afterBlanks? (gap.text ++ rest) = some rest :=
    gap.taken solid
  cases command with
  | update word =>
      have read : afterUpdate? (word.text ++ (gap.text ++ rest)) = some (gap.text ++ rest) :=
        word.taken (by decide) _
      rw [afterCommand?, written, read]
      exact left
  | delete word space origin =>
      have notUpdate : afterUpdate? (word.text ++ (space.text ++ (origin.text ++ (gap.text ++ rest)))) =
          none := by
        apply after_keyword_none (by decide)
        rw [keyword_head (word.folds (by decide)) (by decide)]
        decide
      have solidOrigin : IsSolid (origin.text ++ (gap.text ++ rest)) :=
        keyword_solid (origin.folds (by decide)) (by decide) (by decide) _
      have first : afterKeyword? "delete"
          (word.text ++ (space.text ++ (origin.text ++ (gap.text ++ rest)))) =
            some (space.text ++ (origin.text ++ (gap.text ++ rest))) :=
        word.taken (by decide) _
      have between : Text.afterBlanks? (space.text ++ (origin.text ++ (gap.text ++ rest))) =
          some (origin.text ++ (gap.text ++ rest)) :=
        space.taken solidOrigin
      have second : afterKeyword? "from" (origin.text ++ (gap.text ++ rest)) =
          some (gap.text ++ rest) :=
        origin.taken (by decide) _
      have read : afterDelete? (word.text ++ (space.text ++ (origin.text ++ (gap.text ++ rest)))) =
          some (gap.text ++ rest) := by
        simp only [afterDelete?, afterWord?, first, between, second, Option.bind_eq_bind,
          Option.bind_some]
      simp only [written, List.append_assoc, afterCommand?, notUpdate, read, Option.none_or,
        Option.some_or, Option.bind_eq_bind, Option.bind_some, left]

end Command

section Search

variable {sql : Text} {parts : List Text}

/-- A reference at the start of a text is the first one in it. -/
theorem parts_of_reference (found : reference? sql = some parts) (nonempty : parts ≠ []) :
    parts? sql = some parts := by
  cases sql with
  | nil => cases found
  | cons c sql =>
      have first : findFrom? false (c :: sql) = some parts := by
        simp [findFrom?, found]
      simp [parts?, first, nonempty]

/-- A command and a reference at the start of a text are what is found in it, whatever follows. -/
theorem parts_of_written (command : Command) (gap : Gap) (reference : Reference) {rest : Text}
    (ends : EndsReference rest) :
    parts? (command.written ++ (gap.text ++ (reference.written ++ rest))) = some reference.names := by
  apply parts_of_reference
  · exact reference_of_written reference ends (command.after_written gap (reference.solid rest))
  · exact reference.names_ne_nil

end Search

section Quoting

variable {name : Name}

theorem plain_unquoted (sound : name.IsSound) : '"' ∉ name.plain := by
  cases name with
  | quoted name => exact sound.2
  | bare word =>
      obtain ⟨first, rest, rfl, starts, word⟩ := sound
      intro member
      rcases List.mem_cons.mp member with rfl | inside
      · exact absurd starts (by decide)
      · exact absurd (word '"' inside) (by decide +kernel)

theorem quote_part_of_unquoted {part : Text} (unquoted : '"' ∉ part) :
    quotePart part = enclosed part := by
  have same : part.flatMap (fun c => if c = '"' then ['"', '"'] else [c]) = part := by
    induction part with
    | nil => rfl
    | cons c part ih =>
        simp only [List.mem_cons, not_or] at unquoted
        rw [List.flatMap_cons, if_neg (Ne.symm unquoted.1), ih unquoted.2]
        rfl
  rw [quotePart, same]
  rfl

theorem names_unquoted (reference : Reference) : ∀ name ∈ reference.names, '"' ∉ name := by
  intro name member
  cases reference with
  | single only sound =>
      rw [List.mem_singleton.mp member]
      exact plain_unquoted sound
  | qualified schema before after only schemaSound sound =>
      rcases List.mem_cons.mp member with rfl | last
      · exact plain_unquoted schemaSound
      · rw [List.mem_singleton.mp last]
        exact plain_unquoted sound

theorem quoted_names (reference : Reference) :
    reference.names.map quotePart = reference.names.map enclosed := by
  rw [List.map_inj_left]
  intro name member
  exact quote_part_of_unquoted (names_unquoted reference name member)

theorem quoted_of_written (command : Command) (gap : Gap) (reference : Reference) {rest : Text}
    (ends : EndsReference rest) :
    quoted? (command.written ++ (gap.text ++ (reference.written ++ rest))) =
      some (List.intercalate "." (reference.names.map enclosed)) := by
  rw [quoted?, parts_of_written command gap reference ends, Option.map_some,
    quoted_names reference]

end Quoting

end TableName
end Sql
end SqlPipeline
