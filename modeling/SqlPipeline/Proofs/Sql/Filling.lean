import SqlPipeline.Proofs.Sql.Splitting

/-!
Marks that are filled in. The marks of a text are replaced by texts that are written for their
numbers. Where these bring no quote, blank or semicolon, a filled text is cut where the text itself
is: its statements are those of the text, each filled from the number on that the marks before it
come to.
-/

namespace SqlPipeline
namespace Sql

instance : DecidablePred IsQuote :=
  fun c => inferInstanceAs (Decidable (c = '\'' ∨ c = '"'))

/-- A text with what is written for their numbers in the place of its marks. -/
def fill (written : Nat -> Text) : Nat -> Text -> Text
  | _, [] => []
  | number, c :: rest =>
      if c = '?' then written number ++ fill written (number + 1) rest
      else c :: fill written number rest

/-- Texts one after the other, where the numbers go on from one text to the next. -/
def fillEach (written : Nat -> Text) : Nat -> List Text -> List Text
  | _, [] => []
  | number, s :: later => fill written number s :: fillEach written (number + s.count '?') later

/-- The number of the marks of several texts. -/
def marksIn (texts : List Text) : Nat :=
  texts.flatten.count '?'

/-- A text that cuts and trims go around. -/
structure IsInert (s : Text) : Prop where
  nonempty : s ≠ []
  unquoted : ∀ c ∈ s, ¬IsQuote c
  uncut : ';' ∉ s
  solid : ∀ c ∈ s, Text.isBlank c = false

namespace IsInert

variable {s : Text} (inert : IsInert s)
include inert

theorem run : Quoting.bare.run s = .bare :=
  Quoting.run_plain (P := fun c => ¬IsQuote c) (not_not_intro (.inl rfl)) (not_not_intro (.inr rfl))
    inert.unquoted

/-- An inert text belongs to the piece that goes on behind it. -/
theorem cut (rest : Text) :
    cutFrom .bare (s ++ rest) = (s ++ (cutFrom .bare rest).1, (cutFrom .bare rest).2) := by
  rw [cut_of_hidden (Quoting.hides_of_absent inert.uncut), inert.run]

theorem head_solid (rest : Text) : ∀ c ∈ (s ++ rest).head?, Text.isBlank c = false := by
  intro c head
  rw [List.head?_append, List.head?_eq_some_head inert.nonempty] at head
  rw [← Option.some.inj head]
  exact inert.solid _ (List.head_mem _)

theorem last_solid : ∀ c ∈ s.getLast?, Text.isBlank c = false :=
  fun c last => inert.solid c (List.mem_of_getLast? last)

theorem not_void (rest : Text) : isVoid (s ++ rest) = false := by
  obtain ⟨c, later, rfl⟩ := List.exists_cons_of_ne_nil inert.nonempty
  have other : c ≠ ';' := fun same => inert.uncut (same ▸ List.mem_cons_self)
  simp [isVoid, other]

end IsInert

section Texts

variable {written : Nat -> Text} {number : Nat} {s t : Text}

theorem fill_mark : fill written number ('?' :: s) = written number ++ fill written (number + 1) s := by
  rw [fill, if_pos rfl]

theorem fill_other {c : Char} (other : c ≠ '?') :
    fill written number (c :: s) = c :: fill written number s := by
  rw [fill, if_neg other]

theorem fill_append :
    fill written number (s ++ t) =
      fill written number s ++ fill written (number + s.count '?') t := by
  induction s generalizing number with
  | nil => rfl
  | cons c s ih =>
      by_cases mark : c = '?'
      · subst mark
        rw [List.cons_append, fill_mark, fill_mark, ih, List.count_cons_self, List.append_assoc,
          Nat.add_right_comm, Nat.add_assoc]
      · rw [List.cons_append, fill_other mark, fill_other mark, ih, List.cons_append,
          List.count_cons_of_ne mark]

theorem fill_plain (plain : '?' ∉ s) : fill written number s = s := by
  induction s with
  | nil => rfl
  | cons c s ih =>
      simp only [List.mem_cons, not_or] at plain
      rw [fill_other (Ne.symm plain.1), ih plain.2]

theorem fill_ne_nil (inert : ∀ number, IsInert (written number)) (nonempty : s ≠ []) :
    fill written number s ≠ [] := by
  cases s with
  | nil => exact absurd rfl nonempty
  | cons c s =>
      by_cases mark : c = '?'
      · subst mark
        rw [fill_mark]
        exact List.append_ne_nil_of_left_ne_nil (inert number).nonempty _
      · rw [fill_other mark]
        exact List.cons_ne_nil _ _

/-- Each character of a filled text was written for a mark or stands in the text. -/
theorem mem_fill {c : Char} (member : c ∈ fill written number s) :
    (∃ own, c ∈ written own) ∨ c ∈ s := by
  induction s generalizing number with
  | nil => exact nomatch member
  | cons d s ih =>
      by_cases mark : d = '?'
      · subst mark
        rw [fill_mark] at member
        rcases List.mem_append.mp member with own | later
        · exact .inl ⟨number, own⟩
        · exact (ih later).imp_right (List.mem_cons_of_mem _)
      · rw [fill_other mark] at member
        rcases List.mem_cons.mp member with rfl | later
        · exact .inr List.mem_cons_self
        · exact (ih later).imp_right (List.mem_cons_of_mem _)

/-- What is written may depend on the numbers of the marks only. -/
theorem fill_congr {other : Nat -> Text} {shift : Nat}
    (same : ∀ index < s.count '?', written (number + index) = other (shift + index)) :
    fill written number s = fill other shift s := by
  induction s generalizing number shift with
  | nil => rfl
  | cons c s ih =>
      by_cases mark : c = '?'
      · subst mark
        rw [List.count_cons_self] at same
        have later : fill written (number + 1) s = fill other (shift + 1) s := by
          apply ih
          intro index below
          have next := same (index + 1) (Nat.succ_lt_succ below)
          rwa [Nat.add_comm index, ← Nat.add_assoc, ← Nat.add_assoc] at next
        have first : written number = other shift := same 0 (Nat.succ_pos _)
        rw [fill_mark, fill_mark, first, later]
      · rw [List.count_cons_of_ne mark] at same
        rw [fill_other mark, fill_other mark, ih same]

end Texts

section Lists

variable {written : Nat -> Text} {number : Nat}

theorem marks_in_cons (s : Text) (later : List Text) :
    marksIn (s :: later) = s.count '?' + marksIn later := by
  rw [marksIn, List.flatten_cons, List.count_append, ← marksIn]

theorem fill_each_append (earlier later : List Text) :
    fillEach written number (earlier ++ later) =
      fillEach written number earlier ++ fillEach written (number + marksIn earlier) later := by
  induction earlier generalizing number with
  | nil => rfl
  | cons s earlier ih =>
      rw [List.cons_append, fillEach, ih, fillEach, marks_in_cons, Nat.add_assoc, List.cons_append]

end Lists

section Cuts

variable {written : Nat -> Text} (inert : ∀ number, IsInert (written number))
include inert

/-- A filled text without quotes is cut where the text is. -/
theorem cut_fill {s : Text} (unquoted : ∀ c ∈ s, ¬IsQuote c) (number : Nat) :
    cutFrom .bare (fill written number s) =
      (fill written number (cutFrom .bare s).1,
        fillEach written (number + (cutFrom .bare s).1.count '?') (cutFrom .bare s).2) := by
  induction s generalizing number with
  | nil => rfl
  | cons c s ih =>
      obtain ⟨plain, later⟩ := List.forall_mem_cons.mp unquoted
      have state : Quoting.bare.step c = .bare :=
        Quoting.step_plain (fun same => plain (.inl same)) fun same => plain (.inr same)
      by_cases mark : c = '?'
      · subst mark
        have uncut : ¬('?' = ';' ∧ Quoting.bare = .bare) := by decide
        rw [fill_mark, (inert number).cut, ih later, cutFrom, if_neg uncut, state, fill_mark,
          List.count_cons_self, Nat.add_right_comm, Nat.add_assoc]
      · rw [fill_other mark, cutFrom, cutFrom, state, ih later]
        by_cases cut : c = ';' ∧ Quoting.bare = .bare
        · rw [if_pos cut, if_pos cut, fill_other mark, List.count_cons_of_ne mark]
          rfl
        · rw [if_neg cut, if_neg cut, fill_other mark, List.count_cons_of_ne mark]

theorem pieces_fill {s : Text} (unquoted : ∀ c ∈ s, ¬IsQuote c) (number : Nat) :
    pieces (fill written number s) = fillEach written number (pieces s) := by
  rw [pieces, cut_fill inert unquoted]
  rfl

end Cuts

section Trimming

variable {written : Nat -> Text} (inert : ∀ number, IsInert (written number))

theorem blanks_unmarked {before : Text} (blank : ∀ c ∈ before, Text.isBlank c = true) :
    '?' ∉ before :=
  fun member => absurd (blank '?' member) (by decide)

theorem count_trim (s : Text) : (Text.trim s).count '?' = s.count '?' := by
  obtain ⟨before, after, blankBefore, blankAfter, cut⟩ := Text.trim_cut s
  have none : before.count '?' = 0 := List.count_eq_zero.mpr (blanks_unmarked blankBefore)
  have noneAfter : after.count '?' = 0 := List.count_eq_zero.mpr (blanks_unmarked blankAfter)
  rw [cut, List.count_append, List.count_append, none, noneAfter, ← cut, Nat.zero_add, Nat.add_zero]

include inert

theorem fill_head {s : Text} (number : Nat) (solid : ∀ c ∈ s.head?, Text.isBlank c = false) :
    ∀ c ∈ (fill written number s).head?, Text.isBlank c = false := by
  intro c head
  cases s with
  | nil => exact nomatch head
  | cons d s =>
      by_cases mark : d = '?'
      · subst mark
        rw [fill_mark] at head
        exact (inert number).head_solid _ c head
      · rw [fill_other mark] at head
        exact solid c head

theorem fill_last {s : Text} (number : Nat) (solid : ∀ c ∈ s.getLast?, Text.isBlank c = false) :
    ∀ c ∈ (fill written number s).getLast?, Text.isBlank c = false := by
  intro c last
  cases s using List.reverseRecOn with
  | nil => exact nomatch last
  | append_singleton s d _ =>
      rw [fill_append] at last
      by_cases mark : d = '?'
      · subst mark
        rw [fill_mark, fill, List.append_nil,
          List.getLast?_append, List.getLast?_eq_some_getLast (inert _).nonempty] at last
        rw [← Option.some.inj last]
        exact (inert _).solid _ (List.getLast_mem _)
      · rw [fill_other mark, fill, List.getLast?_concat] at last
        apply solid c
        rw [List.getLast?_concat]
        exact last

theorem trim_start_fill (s : Text) (number : Nat) :
    Text.trimStart (fill written number s) = fill written number (Text.trimStart s) := by
  have blank : ∀ c ∈ s.takeWhile Text.isBlank, Text.isBlank c = true :=
    fun c => List.mem_takeWhile_imp
  have cut : s = s.takeWhile Text.isBlank ++ Text.trimStart s :=
    List.takeWhile_append_dropWhile.symm
  have none : (s.takeWhile Text.isBlank).count '?' = 0 :=
    List.count_eq_zero.mpr (blanks_unmarked blank)
  have filled : fill written number s =
      s.takeWhile Text.isBlank ++ fill written number (Text.trimStart s) := by
    conv_lhs => rw [cut, fill_append, fill_plain (blanks_unmarked blank), none, Nat.add_zero]
  rw [filled, Text.trim_start_of_blanks blank,
    Text.trim_start_of_head (fill_head inert number Text.trim_start_head)]

theorem trim_end_fill (s : Text) (number : Nat) :
    Text.trimEnd (fill written number s) = fill written number (Text.trimEnd s) := by
  obtain ⟨after, blank, cut⟩ := Text.trim_end_cut s
  have nothing : Text.trimEnd after = [] := by
    have reversed : ∀ c ∈ after.reverse, Text.isBlank c = true := by simpa using blank
    rw [Text.trimEnd, List.dropWhile_eq_nil_iff.mpr reversed, List.reverse_nil]
  have filled : fill written number s = fill written number (Text.trimEnd s) ++ after := by
    conv_lhs => rw [cut, fill_append, fill_plain (blanks_unmarked blank)]
  rw [filled, Text.trim_end_append (fill_last inert number Text.trim_end_last), nothing,
    List.append_nil]

theorem trim_fill (s : Text) (number : Nat) :
    Text.trim (fill written number s) = fill written number (Text.trim s) := by
  rw [Text.trim, trim_start_fill inert, trim_end_fill inert, ← Text.trim]

/-- A text is void when it is filled only if it is void. -/
theorem void_fill (s : Text) (number : Nat) : isVoid (fill written number s) = isVoid s := by
  cases s with
  | nil => rfl
  | cons c s =>
      by_cases mark : c = '?'
      · subst mark
        rw [fill_mark, (inert number).not_void]
        simp [isVoid]
      · rw [fill_other mark]
        by_cases empty : s = []
        · rw [empty, fill]
        · have nonempty : fill written number s ≠ [] := fill_ne_nil inert empty
          simp [isVoid, empty, nonempty]

end Trimming

section Statements

variable {written : Nat -> Text} {s statement : Text}

theorem void_unmarked (void : isVoid s = true) : s.count '?' = 0 := by
  simp only [isVoid, Bool.or_eq_true, decide_eq_true_eq] at void
  rcases void with rfl | rfl <;> rfl

theorem statements_cons (piece : Text) (later : List Text) :
    statements (piece :: later) =
      if isVoid (Text.trim piece) then statements later
      else Text.trim piece :: statements later := by
  rw [statements, List.map_cons, List.filter_cons, ← statements]
  cases isVoid (Text.trim piece) <;> rfl

theorem statements_fill (inert : ∀ number, IsInert (written number)) (pieces : List Text)
    (number : Nat) :
    statements (fillEach written number pieces) = fillEach written number (statements pieces) := by
  induction pieces generalizing number with
  | nil => rfl
  | cons piece later ih =>
      rw [fillEach, statements_cons, statements_cons, trim_fill inert, void_fill inert, ih]
      cases void : isVoid (Text.trim piece) with
      | true =>
          have none := void_unmarked void
          rw [count_trim] at none
          rw [if_pos rfl, if_pos rfl, none, Nat.add_zero]
      | false => rw [if_neg nofun, if_neg nofun, fillEach, count_trim]

/-- The statements of a filled text are those of the text, filled one after the other. -/
theorem split_fill (inert : ∀ number, IsInert (written number)) (unquoted : ∀ c ∈ s, ¬IsQuote c)
    (number : Nat) : split (fill written number s) = fillEach written number (split s) := by
  change statements (pieces (fill written number s)) = _
  rw [pieces_fill inert unquoted, statements_fill inert]
  rfl

/-- No mark is lost between the statements. -/
theorem marks_in_statements (pieces : List Text) : marksIn (statements pieces) = marksIn pieces := by
  induction pieces with
  | nil => rfl
  | cons piece later ih =>
      rw [statements_cons, marks_in_cons, ← ih]
      cases void : isVoid (Text.trim piece) with
      | true =>
          have none := void_unmarked void
          rw [count_trim] at none
          rw [if_pos rfl, none, Nat.zero_add]
      | false => rw [if_neg nofun, marks_in_cons, count_trim]

theorem marks_in_split (sql : Text) : marksIn (split sql) = sql.count '?' := by
  have whole : marksIn (split sql) = marksIn (pieces sql) := marks_in_statements (pieces sql)
  rw [whole, marksIn, pieces_flatten]

/-- A statement stands in the text behind the marks of the statements before it. -/
theorem statement_stands {pieces earlier later : List Text}
    (cut : statements pieces = earlier ++ statement :: later) :
    ∃ before after, pieces.flatten = before ++ (statement ++ after) ∧
      before.count '?' = marksIn earlier := by
  induction pieces generalizing earlier with
  | nil => exact absurd cut.symm (List.append_ne_nil_of_right_ne_nil _ (List.cons_ne_nil _ _))
  | cons piece others ih =>
      rw [statements_cons] at cut
      cases void : isVoid (Text.trim piece) with
      | true =>
          rw [void, if_pos rfl] at cut
          obtain ⟨before, after, stands, count⟩ := ih cut
          have none := void_unmarked void
          rw [count_trim] at none
          refine ⟨piece ++ before, after, ?_, ?_⟩
          · rw [List.flatten_cons, stands, List.append_assoc]
          · rw [List.count_append, none, Nat.zero_add, count]
      | false =>
          rw [void, if_neg nofun] at cut
          cases earlier with
          | nil =>
              obtain ⟨rfl, -⟩ := List.cons.inj cut
              obtain ⟨before, after, blank, _, own⟩ := Text.trim_cut piece
              refine ⟨before, after ++ others.flatten, ?_, ?_⟩
              · conv_lhs => rw [List.flatten_cons, own]
                simp only [List.append_assoc]
              · exact List.count_eq_zero.mpr (blanks_unmarked blank)
          | cons first earlier =>
              obtain ⟨rfl, rest⟩ := List.cons.inj cut
              obtain ⟨before, after, stands, count⟩ := ih rest
              refine ⟨piece ++ before, after, ?_, ?_⟩
              · rw [List.flatten_cons, stands, List.append_assoc]
              · rw [List.count_append, marks_in_cons, count_trim, count]

theorem split_stands {sql : Text} {earlier later : List Text}
    (cut : split sql = earlier ++ statement :: later) :
    ∃ before after, sql = before ++ (statement ++ after) ∧ before.count '?' = marksIn earlier := by
  have stands : ∃ before after, (pieces sql).flatten = before ++ (statement ++ after) ∧
      before.count '?' = marksIn earlier := statement_stands cut
  rwa [pieces_flatten] at stands

end Statements

end Sql
end SqlPipeline
