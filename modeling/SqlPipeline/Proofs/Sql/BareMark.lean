import SqlPipeline.Proofs.Sql.Numbering
import SqlPipeline.Proofs.Text.Decimal

/-!
Bare marks and the names that they get. A bare mark is a `?` that no digit follows; the marks are
named in their order wherever they stand, so that a mark inside quotes is named like any other. The
quotes themselves are left as they are: a text and its named form stand in the same state at the same
places.
-/

namespace SqlPipeline
namespace Sql

/-- A `?` before a text that does not start with a digit. -/
def isMark (c : Char) (rest : Text) : Bool :=
  c = '?' && !Text.startsWithDigit rest

/-- The number of the bare marks of a text. -/
def marks : Text -> Nat
  | [] => 0
  | c :: rest => (if isMark c rest then 1 else 0) + marks rest

/-- The number of the bare marks that stand in a state that counts. -/
def marksWhere (counts : Quoting -> Bool) : Quoting -> Text -> Nat
  | _, [] => 0
  | quoting, c :: rest =>
      (if isMark c rest && counts quoting then 1 else 0) + marksWhere counts (quoting.step c) rest

def unquotedMarks (sql : Text) : Nat :=
  marksWhere (fun quoting => quoting = .bare) .bare sql

def quotedMarks (sql : Text) : Nat :=
  marksWhere (fun quoting => quoting ≠ .bare) .bare sql

/-- Names the bare marks outside quotes only, so that what is quoted stays as it is. -/
def nameOutside : Quoting -> Nat -> Text -> Text
  | _, _, [] => []
  | quoting, index, c :: rest =>
      if isMark c rest ∧ quoting = .bare then facadeName index ++ nameOutside quoting (index + 1) rest
      else c :: nameOutside (quoting.step c) index rest

section Marks

variable {c : Char} {s rest : Text} {index : Nat} {quoting : Quoting}

theorem mark_char (mark : isMark c rest = true) : c = '?' := by
  simp only [isMark, Bool.and_eq_true, decide_eq_true_eq] at mark
  exact mark.1

theorem name_mark (mark : isMark c rest = true) :
    nameFrom index (c :: rest) = facadeName index ++ nameFrom (index + 1) rest := by
  rw [nameFrom, ← isMark, if_pos mark]

theorem name_other (other : isMark c rest = false) :
    nameFrom index (c :: rest) = c :: nameFrom index rest := by
  rw [nameFrom, ← isMark, other]
  rfl

theorem mark_step (quoting : Quoting) : quoting.step '?' = quoting :=
  Quoting.step_plain (by decide) (by decide)

theorem marks_sum (quoting : Quoting) (s : Text) :
    marks s = marksWhere (fun state => state = .bare) quoting s +
      marksWhere (fun state => state ≠ .bare) quoting s := by
  induction s generalizing quoting with
  | nil => rfl
  | cons c s ih =>
      rw [marks, marksWhere, marksWhere, ih (quoting.step c)]
      cases isMark c s with
      | false => simp
      | true => cases quoting <;> simp <;> omega

theorem mark_append {t : Text} (stop : Text.startsWithDigit t = false) :
    isMark c (s ++ t) = isMark c s := by
  cases s with
  | nil => rw [List.nil_append, isMark, stop, isMark]; rfl
  | cons d s => rfl

/-- Two texts are named one after the other, unless a digit follows a `?` at the border. -/
theorem name_append {t : Text} (stop : Text.startsWithDigit t = false) :
    nameFrom index (s ++ t) = nameFrom index s ++ nameFrom (index + marks s) t := by
  induction s generalizing index with
  | nil => rfl
  | cons c s ih =>
      have border : isMark c (s ++ t) = isMark c s := mark_append stop
      cases mark : isMark c s with
      | true =>
          rw [List.cons_append, name_mark (border.trans mark), name_mark mark, ih, marks, mark,
            List.append_assoc, Nat.add_assoc]
          rfl
      | false =>
          rw [List.cons_append, name_other (border.trans mark), name_other mark, ih, marks, mark]
          simp

theorem name_plain (plain : '?' ∉ s) (rest : Text) :
    nameFrom index (s ++ rest) = s ++ nameFrom index rest := by
  induction s with
  | nil => rfl
  | cons c s ih =>
      simp only [List.mem_cons, not_or] at plain
      have other : isMark c (s ++ rest) = false := by
        simp [isMark, Ne.symm plain.1]
      rw [List.cons_append, name_other other, ih plain.2, List.cons_append]

end Marks

section Names

variable {s : Text} {index : Nat} {quoting : Quoting}

theorem facade_name_injective : Function.Injective facadeName := by
  intro index other same
  rw [facadeName, facadeName, List.append_cancel_left_eq] at same
  have read := congrArg Text.digits? same
  rw [Text.digits_decimal, Text.digits_decimal] at read
  exact Option.some.inj read

theorem facade_name_word (index : Nat) :
    ∀ c ∈ 'p' :: Text.decimal index, Text.isAsciiWordChar c = true := by
  intro c member
  rcases List.mem_cons.mp member with rfl | digit
  · decide
  · rw [Text.isAsciiWordChar, Text.decimal_digits index c digit, Bool.or_true]

theorem facade_name_chars (index : Nat) :
    ∀ c ∈ facadeName index, c = '@' ∨ Text.isAsciiWordChar c = true := by
  intro c member
  rcases List.mem_cons.mp member with rfl | word
  · exact .inl rfl
  · exact .inr (facade_name_word index c word)

theorem facade_name_run (quoting : Quoting) (index : Nat) :
    quoting.run (facadeName index) = quoting :=
  Quoting.run_plain (by decide) (by decide) (facade_name_chars index)

/-- Naming leaves the quotes of a text where they are. -/
theorem named_run (index : Nat) (quoting : Quoting) (s : Text) :
    quoting.run (nameFrom index s) = quoting.run s := by
  induction s generalizing index quoting with
  | nil => rfl
  | cons c s ih =>
      cases mark : isMark c s with
      | true =>
          rw [name_mark mark, Quoting.run_append, facade_name_run, ih, mark_char mark,
            Quoting.run_cons, mark_step]
      | false => rw [name_other mark, Quoting.run_cons, Quoting.run_cons, ih]

/-- All marks are named as the unquoted ones are exactly when none is quoted. -/
theorem name_eq_outside_iff (quoting : Quoting) (index : Nat) (s : Text) :
    nameFrom index s = nameOutside quoting index s ↔
      marksWhere (fun state => state ≠ .bare) quoting s = 0 := by
  induction s generalizing quoting index with
  | nil => exact iff_of_true rfl rfl
  | cons c s ih =>
      cases mark : isMark c s with
      | false =>
          rw [name_other mark, nameOutside, mark, marksWhere, mark]
          simp [ih]
      | true =>
          obtain rfl := mark_char mark
          by_cases bare : quoting = .bare
          · rw [name_mark mark, nameOutside, if_pos ⟨mark, bare⟩, List.append_cancel_left_eq, ih,
              marksWhere, mark_step]
            simp [bare]
          · rw [name_mark mark, nameOutside, if_neg fun outside => bare outside.2, marksWhere, mark]
            refine iff_of_false (fun same => ?_) (by simp [bare])
            have heads : '@' = '?' := (List.cons.inj same).1
            revert heads
            decide

end Names

section Reading

variable {before after : Text}

/-- A named text starts with a name or as the text itself does. -/
theorem named_head (index : Nat) (s : Text) :
    ∀ c ∈ (nameFrom index s).head?, c = '@' ∨ c ∈ s.head? := by
  intro c head
  cases s with
  | nil => exact nomatch head
  | cons d rest =>
      cases mark : isMark d rest with
      | true =>
          rw [name_mark mark] at head
          exact .inl (Option.some.inj head).symm
      | false =>
          rw [name_other mark] at head
          exact .inr head

/-- What stands before a bare mark and what stands after it are named on their own. -/
theorem name_at_mark (mark : Text.startsWithDigit after = false) :
    nameBare (before ++ '?' :: after) =
      nameBare before ++ (facadeName (marks before) ++ nameFrom (marks before + 1) after) := by
  have found : isMark '?' after = true := by rw [isMark, mark]; rfl
  have border : Text.startsWithDigit ('?' :: after) = false := by
    change Text.isDigit '?' = false
    decide
  rw [nameBare, name_append border, Nat.zero_add, name_mark found]
  rfl

/-- A bare mark outside quotes becomes a placeholder, whose name takes in the word characters that
follow the mark. -/
theorem fragments_at_mark (bare : Quoting.bare.run before = .bare)
    (mark : Text.startsWithDigit after = false) :
    fragments (nameBare (before ++ '?' :: after)) =
      fragments (nameBare before) ++
        .placeholder (facadeName (marks before) ++ after.takeWhile Text.isAsciiWordChar) ::
          fragments (nameFrom (marks before + 1) (after.dropWhile Text.isAsciiWordChar)) := by
  have word : ∀ c ∈ after.takeWhile Text.isAsciiWordChar, Text.isAsciiWordChar c = true :=
    fun c => List.mem_takeWhile_imp
  have plain : '?' ∉ after.takeWhile Text.isAsciiWordChar := fun member =>
    absurd (word '?' member) (by decide)
  have state : Quoting.bare.run (nameBare before) = .bare := (named_run 0 .bare before).trans bare
  have named : ∀ c ∈ 'p' :: Text.decimal (marks before) ++ after.takeWhile Text.isAsciiWordChar,
      Text.isAsciiWordChar c = true := by
    intro c member
    rcases List.mem_append.mp member with own | taken
    · exact facade_name_word (marks before) c own
    · exact word c taken
  have stop : ∀ c ∈ (nameFrom (marks before + 1)
      (after.dropWhile Text.isAsciiWordChar)).head?, Text.isAsciiWordChar c = false := by
    intro c head
    rcases named_head _ _ c head with rfl | left
    · decide
    · exact Text.drop_while_head c left
  have cut : nameFrom (marks before + 1) after = after.takeWhile Text.isAsciiWordChar ++
      nameFrom (marks before + 1) (after.dropWhile Text.isAsciiWordChar) := by
    rw [← name_plain plain, List.takeWhile_append_dropWhile]
  rw [name_at_mark mark, cut, ← List.append_assoc (facadeName (marks before))]
  exact fragments_through_name state (List.cons_ne_nil _ _) named stop

end Reading

end Sql
end SqlPipeline
