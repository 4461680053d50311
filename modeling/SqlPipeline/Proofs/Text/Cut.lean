import Mathlib.Data.List.TakeWhile
import SqlPipeline.Text.Blank

/-!
Cutting a text by a class of characters. A run of such characters ends where the text goes on with
another one; a text that neither starts nor ends with one of them loses nothing at its ends. A
pattern is found where the text is cut into what is before it, the pattern and what is behind.
-/

namespace SqlPipeline
namespace Text

/-- A text is checked character by character; the characters that there are, finitely many as they
are, are not gone through for it. -/
instance (priority := high) decidableEach {P : Char -> Prop} [DecidablePred P] (s : Text) :
    Decidable (∀ c ∈ s, P c) :=
  List.decidableBAll P s

instance (priority := high) decidableHead {P : Char -> Prop} [DecidablePred P]
    (head : Option Char) : Decidable (∀ c ∈ head, P c) :=
  Option.decidableForallMem head

/-- A text without a mark is a run of the other characters. -/
theorem others_of_free {mark : Char} {s : Text} (free : mark ∉ s) :
    ∀ c ∈ s, decide (c ≠ mark) = true := by
  intro c member
  rw [decide_eq_true_iff]
  rintro rfl
  exact free member

theorem take_while_run {p : Char -> Bool} {run : Text} (rest : Text) (all : ∀ c ∈ run, p c = true)
    (stop : ∀ c ∈ rest.head?, p c = false) : (run ++ rest).takeWhile p = run := by
  rw [List.takeWhile_append_of_pos all]
  cases rest with
  | nil => simp
  | cons c rest =>
      have stopped : p c = false := stop c rfl
      simp [stopped]

theorem drop_while_run {p : Char -> Bool} {run : Text} (rest : Text) (all : ∀ c ∈ run, p c = true)
    (stop : ∀ c ∈ rest.head?, p c = false) : (run ++ rest).dropWhile p = rest := by
  rw [List.dropWhile_append_of_pos all]
  cases rest with
  | nil => rfl
  | cons c rest =>
      have stopped : p c = false := stop c rfl
      simp [stopped]

/-- What follows a run that it does not continue is not looked at. -/
theorem take_while_append {p : Char -> Bool} (s : Text) {rest : Text}
    (stop : ∀ c ∈ rest.head?, p c = false) : (s ++ rest).takeWhile p = s.takeWhile p := by
  induction s with
  | nil => simpa using @take_while_run p [] rest (List.forall_mem_nil _) stop
  | cons c s ih =>
      by_cases member : p c = true
      · simp [member, ih]
      · simp [member]

theorem drop_while_append {p : Char -> Bool} (s : Text) {rest : Text}
    (stop : ∀ c ∈ rest.head?, p c = false) : (s ++ rest).dropWhile p = s.dropWhile p ++ rest := by
  induction s with
  | nil => simpa using @drop_while_run p [] rest (List.forall_mem_nil _) stop
  | cons c s ih =>
      by_cases member : p c = true
      · simp [member, ih]
      · simp [member]

theorem drop_while_head {p : Char -> Bool} {s : Text} :
    ∀ c ∈ (s.dropWhile p).head?, p c = false := by
  intro c head
  have stopped := List.head?_dropWhile_not p s
  rw [Option.mem_def.mp head] at stopped
  exact stopped

/-- What is left of a text when a run is taken off its start. -/
theorem drop_while_iff {p : Char -> Bool} {s rest : Text} :
    s.dropWhile p = rest ↔ ∃ run : Text, (∀ c ∈ run, p c = true) ∧ s = run ++ rest ∧
      ∀ c ∈ rest.head?, p c = false := by
  constructor
  · rintro rfl
    exact ⟨s.takeWhile p, fun c => List.mem_takeWhile_imp, List.takeWhile_append_dropWhile.symm,
      drop_while_head⟩
  · rintro ⟨run, all, rfl, stop⟩
    exact drop_while_run rest all stop

theorem take_while_nil_iff {p : Char -> Bool} {s : Text} :
    s.takeWhile p = [] ↔ ∀ c ∈ s.head?, p c = false := by
  cases s with
  | nil => simp
  | cons c rest => simp [List.takeWhile_cons]

theorem drop_while_of_head {p : Char -> Bool} {s : Text} (head : ∀ c ∈ s.head?, p c = false) :
    s.dropWhile p = s :=
  drop_while_run s (List.forall_mem_nil _) head

theorem strip_of_ends {p : Char -> Bool} {s : Text} (head : ∀ c ∈ s.head?, p c = false)
    (last : ∀ c ∈ s.getLast?, p c = false) :
    ((s.dropWhile p).reverse.dropWhile p).reverse = s := by
  have reversed : ∀ c ∈ s.reverse.head?, p c = false := by
    rwa [List.head?_reverse]
  rw [drop_while_of_head head, drop_while_of_head reversed, List.reverse_reverse]

theorem strip_of_all {p : Char -> Bool} {s : Text} (none : ∀ c ∈ s, p c = false) :
    ((s.dropWhile p).reverse.dropWhile p).reverse = s :=
  strip_of_ends (fun c member => none c (List.mem_of_mem_head? member))
    (fun c member => none c (List.mem_of_getLast? member))

theorem trim_start_of_head {s : Text} (head : ∀ c ∈ s.head?, isBlank c = false) :
    trimStart s = s :=
  drop_while_of_head head

theorem trim_of_ends {s : Text} (head : ∀ c ∈ s.head?, isBlank c = false)
    (last : ∀ c ∈ s.getLast?, isBlank c = false) : trim s = s :=
  strip_of_ends head last

theorem trim_end_cut (s : Text) :
    ∃ after : Text, (∀ c ∈ after, isBlank c = true) ∧ s = trimEnd s ++ after := by
  refine ⟨(s.reverse.takeWhile isBlank).reverse, ?_, ?_⟩
  · intro c member
    exact List.mem_takeWhile_imp (List.mem_reverse.mp member)
  · rw [trimEnd, ← List.reverse_append, List.takeWhile_append_dropWhile, List.reverse_reverse]

/-- Trimming takes blanks off both ends and nothing else. -/
theorem trim_cut (s : Text) :
    ∃ before after : Text, (∀ c ∈ before, isBlank c = true) ∧ (∀ c ∈ after, isBlank c = true) ∧
      s = before ++ (trim s ++ after) := by
  obtain ⟨after, blank, cut⟩ := trim_end_cut (trimStart s)
  refine ⟨s.takeWhile isBlank, after, fun c => List.mem_takeWhile_imp, blank, ?_⟩
  rw [trim, ← cut, trimStart, List.takeWhile_append_dropWhile]

theorem trim_infix (s : Text) : trim s <:+: s := by
  obtain ⟨before, after, _, _, cut⟩ := trim_cut s
  exact ⟨before, after, by rw [List.append_assoc, ← cut]⟩

theorem trim_start_head {s : Text} : ∀ c ∈ (trimStart s).head?, isBlank c = false :=
  drop_while_head

theorem trim_end_last {s : Text} : ∀ c ∈ (trimEnd s).getLast?, isBlank c = false := by
  intro c last
  rw [trimEnd, List.getLast?_reverse] at last
  exact trim_start_head c last

theorem trim_start_of_blanks {before : Text} (blank : ∀ c ∈ before, isBlank c = true) (s : Text) :
    trimStart (before ++ s) = trimStart s :=
  List.dropWhile_append_of_pos blank

theorem trim_start_append (s : Text) {t : Text} (head : ∀ c ∈ t.head?, isBlank c = false) :
    trimStart (s ++ t) = trimStart s ++ t :=
  drop_while_append s head

theorem trim_end_append {s : Text} (last : ∀ c ∈ s.getLast?, isBlank c = false) (t : Text) :
    trimEnd (s ++ t) = s ++ trimEnd t := by
  have reversed : ∀ c ∈ s.reverse.head?, isBlank c = false := by
    rwa [List.head?_reverse]
  rw [trimEnd, List.reverse_append, drop_while_append t.reverse reversed, List.reverse_append,
    List.reverse_reverse, trimEnd]

theorem trim_end_of_last {s : Text} (last : ∀ c ∈ s.getLast?, isBlank c = false) :
    trimEnd s = s := by
  simpa [trimEnd] using trim_end_append last []

theorem trim_end_cons (c : Char) (s : Text) :
    trimEnd (c :: s) = if trimEnd s = [] ∧ isBlank c = true then [] else c :: trimEnd s := by
  rw [trimEnd, List.reverse_cons, List.dropWhile_append, trimEnd]
  by_cases empty : s.reverse.dropWhile isBlank = []
  · cases blank : isBlank c <;> simp [empty, blank]
  · simp [empty]

theorem trim_head {s : Text} : ∀ c ∈ (trim s).head?, isBlank c = false := by
  intro c head
  obtain ⟨after, _, cut⟩ := trim_end_cut (trimStart s)
  apply trim_start_head (s := s)
  rw [cut, List.head?_append, ← trim, Option.mem_def.mp head]
  rfl

theorem trim_last {s : Text} : ∀ c ∈ (trim s).getLast?, isBlank c = false :=
  trim_end_last

theorem trim_trim (s : Text) : trim (trim s) = trim s :=
  trim_of_ends trim_head trim_last

theorem contains_iff {pattern s : Text} : contains pattern s = true ↔ pattern <:+: s := by
  induction s with
  | nil => simp [contains]
  | cons c s ih =>
      rw [contains, Bool.or_eq_true, List.isPrefixOf_iff_prefix, ih, List.infix_cons_iff]

theorem contains_of_starts {pattern s : Text} (starts : s.startsWith pattern = true) :
    contains pattern s = true :=
  contains_iff.mpr (List.isPrefixOf_iff_prefix.mp starts).isInfix

/-- The mark is in none of the pieces of a text. -/
theorem split_on_pieces {mark : Char} {s piece : Text} (member : piece ∈ List.splitOn mark s) :
    mark ∉ piece := by
  induction s generalizing piece with
  | nil =>
      rw [List.splitOn_nil] at member
      cases List.mem_singleton.mp member
      exact List.not_mem_nil
  | cons c s ih =>
      rw [List.splitOn_cons_eq_if_modifyHead] at member
      by_cases broken : c = mark
      · rw [if_pos (beq_iff_eq.mpr broken)] at member
        rcases List.mem_cons.mp member with rfl | member
        · exact List.not_mem_nil
        · exact ih member
      · obtain ⟨first, later, pieces⟩ := List.exists_cons_of_ne_nil (List.splitOn_ne_nil mark s)
        rw [if_neg (mt beq_iff_eq.mp broken), pieces, List.modifyHead_cons] at member
        rw [pieces] at ih
        rcases List.mem_cons.mp member with rfl | member
        · rw [List.mem_cons, not_or]
          exact ⟨Ne.symm broken, ih List.mem_cons_self⟩
        · exact ih (List.mem_cons_of_mem first member)

end Text
end SqlPipeline
