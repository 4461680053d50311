import SqlPipeline.Facade.Basic
import SqlPipeline.Proofs.Sql.BareMark

/-!
The names that bare marks get, and the values that are found under them. The names count up from
zero, and so do the names of the values, so that a name finds the value at its number. A name that
goes on with further word characters finds none.
-/

namespace SqlPipeline
namespace Facade

open Sql (Quoting facadeName nameBare nameFrom nameOutside marks unquotedMarks quotedMarks fragments)

/-- A value as the parameter of its position. -/
def entryAt (index : Nat) (value : Value) : Entry :=
  ⟨index, Parameter.make (some (facadeName index)) value none none⟩

section Names

variable {index other : Nat} {word : Text}

theorem facade_name_eq_iff (stop : Text.startsWithDigit word = false) :
    facadeName other = facadeName index ++ word ↔ word = [] ∧ other = index := by
  constructor
  · intro same
    have nil : word = [] := by
      rw [facadeName, facadeName, List.append_assoc, List.append_cancel_left_eq] at same
      cases word with
      | nil => rfl
      | cons c rest =>
          have digit : Text.isAsciiDigit c = true :=
            Text.decimal_digits other c (by rw [same]; simp)
          have refused : Text.isDigit c = false := stop
          rw [Text.digit_is_digit digit] at refused
          cases refused
    rw [nil, List.append_nil] at same
    exact ⟨nil, Sql.facade_name_injective same⟩
  · rintro ⟨rfl, rfl⟩
    rw [List.append_nil]

theorem entry_answers_iff {value : Value} (stop : Text.startsWithDigit word = false) :
    Parameters.answersTo (facadeName index ++ word) (entryAt other value) = true ↔
      word = [] ∧ other = index := by
  rw [← facade_name_eq_iff stop, Parameters.answersTo, decide_eq_true_eq]
  rfl

end Names

section Values

variable {values : List Value} {word : Text}

theorem entry_at (values : List Value) (index : Nat) :
    (parameters values).entries[index]? = values[index]?.map (entryAt index) := by
  rw [parameters, Parameters.ofList]
  simp only [List.getElem?_map, List.getElem?_zipIdx, Option.map_map, Nat.zero_add]
  rfl

theorem mem_entries {entry : Entry} :
    entry ∈ (parameters values).entries ↔
      ∃ index value, values[index]? = some value ∧ entry = entryAt index value := by
  simp only [List.mem_iff_getElem?, entry_at, Option.map_eq_some_iff, eq_comm (a := entry)]

theorem entry_answers_own {index other : Nat} {value : Value} :
    Parameters.answersTo (facadeName index) (entryAt other value) = true ↔ other = index := by
  have whole : Parameters.answersTo (facadeName index ++ []) (entryAt other value) = true ↔
      ([] : Text) = [] ∧ other = index := entry_answers_iff rfl
  rwa [List.append_nil, and_iff_right rfl] at whole

/-- A name finds the value at its number. -/
theorem value_found (values : List Value) (index : Nat) :
    (parameters values).find? (facadeName index) = values[index]?.map (entryAt index) := by
  cases found : (parameters values).find? (facadeName index) with
  | none =>
      rw [Parameters.find?, List.find?_eq_none] at found
      cases given : values[index]? with
      | none => rfl
      | some value =>
          have member := mem_entries.mpr ⟨index, value, given, rfl⟩
          exact absurd (entry_answers_own.mpr rfl) (found _ member)
  | some entry =>
      have answers := List.find?_some found
      obtain ⟨other, value, given, rfl⟩ := mem_entries.mp (List.mem_of_find?_eq_some found)
      obtain rfl := entry_answers_own.mp answers
      rw [given]
      rfl

/-- A name that goes on with further word characters finds nothing. -/
theorem value_unfound (stop : Text.startsWithDigit word = false) (nonempty : word ≠ [])
    (index : Nat) : (parameters values).find? (facadeName index ++ word) = none := by
  rw [Parameters.find?, List.find?_eq_none]
  intro entry member answers
  obtain ⟨other, value, _, rfl⟩ := mem_entries.mp member
  exact nonempty ((entry_answers_iff stop).mp answers).1

/-- One position finds what another one does exactly when they are the same or both past the end. -/
theorem entry_eq_iff {position claimed : Nat} (within : claimed ≤ position) :
    values[position]?.map (entryAt position) = values[claimed]?.map (entryAt claimed) ↔
      position = claimed ∨ values.length ≤ claimed := by
  constructor
  · intro same
    by_cases short : values.length ≤ claimed
    · exact .inr short
    · rw [List.getElem?_eq_getElem (Nat.lt_of_not_le short), Option.map_some,
        Option.map_eq_some_iff] at same
      obtain ⟨value, _, entries⟩ := same
      exact .inl (congrArg Entry.number entries)
  · rintro (rfl | short)
    · rfl
    · rw [List.getElem?_eq_none short, List.getElem?_eq_none (Nat.le_trans short within)]
      rfl

end Values

/-- The name that is read where a bare mark was: word characters behind the mark belong to it. -/
def nameAt (before after : Text) : Text :=
  facadeName (marks before) ++ after.takeWhile Text.isAsciiWordChar

section Marks

variable {before after : Text}

theorem taken_no_digit (mark : Text.startsWithDigit after = false) :
    Text.startsWithDigit (after.takeWhile Text.isAsciiWordChar) = false := by
  cases after with
  | nil => rfl
  | cons c rest =>
      by_cases word : Text.isAsciiWordChar c = true
      · rwa [List.takeWhile_cons_of_pos word]
      · rw [List.takeWhile_cons_of_neg word]
        rfl

theorem name_at_found (values : List Value) (mark : Text.startsWithDigit after = false) :
    (parameters values).find? (nameAt before after) =
      if after.takeWhile Text.isAsciiWordChar = [] then
        values[marks before]?.map (entryAt (marks before))
      else none := by
  by_cases alone : after.takeWhile Text.isAsciiWordChar = []
  · rw [if_pos alone, nameAt, alone, List.append_nil, value_found]
  · rw [if_neg alone, nameAt, value_unfound (taken_no_digit mark) alone]

/-- A mark outside quotes stands for the value at its number among the marks outside quotes only if
no word character follows it and no mark inside quotes precedes it, or if there is no such value. -/
theorem name_at_counts_iff (values : List Value) (mark : Text.startsWithDigit after = false) :
    (parameters values).find? (nameAt before after) =
        values[unquotedMarks before]?.map (entryAt (unquotedMarks before)) ↔
      after.takeWhile Text.isAsciiWordChar = [] ∧ quotedMarks before = 0 ∨
        values.length ≤ unquotedMarks before := by
  have sum : marks before = unquotedMarks before + quotedMarks before := Sql.marks_sum .bare before
  rw [name_at_found values mark]
  by_cases alone : after.takeWhile Text.isAsciiWordChar = []
  · have same : marks before = unquotedMarks before ↔ quotedMarks before = 0 := by omega
    rw [if_pos alone, entry_eq_iff (by omega), same, and_iff_right alone]
  · rw [if_neg alone, eq_comm, Option.map_eq_none_iff, List.getElem?_eq_none_iff]
    simp [alone]

end Marks

/-- A text is named with its quotes respected exactly when no bare mark is quoted: a mark gets the
number of the bare marks before it, quoted ones included, and its name is put where it stands, the
quotes around it as they were. Outside quotes the name is read as a placeholder, together with the
word characters behind the mark, and finds the value at its number, or none if there are such
characters. -/
theorem naming_respects_quotes_iff (sql : Text) (values : List Value) :
    (nameBare sql = nameOutside .bare 0 sql ↔ quotedMarks sql = 0) ∧
      ∀ before after, sql = before ++ '?' :: after -> Text.startsWithDigit after = false ->
        nameBare sql =
            nameBare before ++ (facadeName (marks before) ++ nameFrom (marks before + 1) after) ∧
          marks before = unquotedMarks before + quotedMarks before ∧
          Quoting.bare.run (nameBare before) = Quoting.bare.run before ∧
          (Quoting.bare.run before = .bare ->
            fragments (nameBare sql) =
                fragments (nameBare before) ++ .placeholder (nameAt before after) ::
                  fragments (nameFrom (marks before + 1) (after.dropWhile Text.isAsciiWordChar)) ∧
              (parameters values).find? (nameAt before after) =
                (if after.takeWhile Text.isAsciiWordChar = [] then
                  values[marks before]?.map (entryAt (marks before))
                else none) ∧
              ((parameters values).find? (nameAt before after) =
                  values[unquotedMarks before]?.map (entryAt (unquotedMarks before)) ↔
                after.takeWhile Text.isAsciiWordChar = [] ∧ quotedMarks before = 0 ∨
                  values.length ≤ unquotedMarks before)) := by
  refine ⟨Sql.name_eq_outside_iff .bare 0 sql, ?_⟩
  rintro before after rfl mark
  refine ⟨Sql.name_at_mark mark, Sql.marks_sum .bare before, Sql.named_run 0 .bare before, ?_⟩
  intro bare
  exact ⟨Sql.fragments_at_mark bare mark, name_at_found values mark, name_at_counts_iff values mark⟩

/-- A quoted mark takes the first number, so that the mark outside finds the second value. -/
theorem naming_shifted_by_quoted_mark :
    nameBare "SELECT '?', ?" ≠ nameOutside .bare 0 "SELECT '?', ?" ∧
      (parameters [.text "x", .text "y"]).find? (nameAt "SELECT '?', " []) =
        some (entryAt 1 (.text "y")) := by
  obtain ⟨respected, each⟩ := naming_respects_quotes_iff "SELECT '?', ?" [.text "x", .text "y"]
  refine ⟨fun same => absurd (respected.mp same) (by decide), ?_⟩
  obtain ⟨_, _, _, read⟩ := each "SELECT '?', " [] rfl rfl
  exact (read (by decide)).2.1

end Facade
end SqlPipeline
