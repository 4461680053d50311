import Mathlib.Data.List.Forall2
import SqlPipeline.Proofs.Sql.NamedKey
import SqlPipeline.Proofs.Sql.Positional

/-!
Numbering and splitting do not depend on their order. Neither a name nor its position has a quote, a
semicolon or a blank in it, so that a numbered script is cut and trimmed where the script is. Its
statements are those of the script with the names replaced by their positions in the whole, and the
names of the whole are those of its statements as they first appear.
-/

namespace SqlPipeline
namespace Sql

/-- The names in a text, in order and as often as they stand in it. -/
def mentioned (s : Text) : List Text :=
  (fragments s).filterMap Fragment.name?

/-- A text is another one with each name that stands outside quotes replaced by its position among
these names. -/
inductive Renumbered (names : List Text) : Quoting -> Text -> Text -> Prop where
  | done (quoting : Quoting) : Renumbered names quoting [] []
  | name {placeholder rest written : Text} {position : Nat} (named : IsPlaceholder placeholder)
      (stop : ∀ c ∈ rest.head?, Text.isAsciiWordChar c = false)
      (listed : names[position]? = some placeholder) (later : Renumbered names .bare rest written) :
      Renumbered names .bare (placeholder ++ rest) (positionMark (position + 1) ++ written)
  | other {quoting : Quoting} {c : Char} {rest written : Text}
      (plain : c = '@' -> quoting = .bare -> ∀ next ∈ rest.head?, Text.isAsciiWordChar next = false)
      (later : Renumbered names (quoting.step c) rest written) :
      Renumbered names quoting (c :: rest) (c :: written)

section Inert

theorem placeholder_inert {placeholder : Text} (named : IsPlaceholder placeholder) :
    IsInert placeholder := by
  obtain ⟨name, rfl, -, ascii⟩ := named
  exact marked_word_inert ⟨by decide, by decide, by decide, by decide⟩ ascii

theorem position_mark_inert (position : Nat) : IsInert (positionMark position) := by
  apply marked_word_inert ⟨by decide, by decide, by decide, by decide⟩
  intro c member
  have digit := Text.decimal_digits position c member
  simp [Text.isAsciiWordChar, digit]

end Inert

namespace Renumbered

variable {names : List Text} {quoting : Quoting} {s t start : Text}

theorem nil_iff (renumbered : Renumbered names quoting s t) : s = [] ↔ t = [] := by
  cases renumbered with
  | done => exact Iff.rfl
  | name named =>
      have own := (placeholder_inert named).nonempty
      simp [own, positionMark]
  | other => exact iff_of_false (List.cons_ne_nil _ _) (List.cons_ne_nil _ _)

theorem void_eq (renumbered : Renumbered names quoting s t) : isVoid s = isVoid t := by
  cases renumbered with
  | done => rfl
  | name named =>
      rw [(placeholder_inert named).not_void, (position_mark_inert _).not_void]
  | other plain later => simp [isVoid, later.nil_iff]

/-- What does not go on a name at the start of a text does not at the start of a part of it. -/
theorem stop_of_start (part : start <+: s) (stop : ∀ c ∈ s.head?, Text.isAsciiWordChar c = false) :
    ∀ c ∈ start.head?, Text.isAsciiWordChar c = false := by
  obtain ⟨rest, rfl⟩ := part
  intro c head
  apply stop
  rw [List.head?_append, Option.mem_def.mp head]
  rfl

theorem first_piece (quoting : Quoting) (s : Text) : (cutFrom quoting s).1 <+: s :=
  ⟨(cutFrom quoting s).2.flatten, cutFrom_flatten quoting s⟩

theorem trimmed_end (s : Text) : Text.trimEnd s <+: s := by
  obtain ⟨after, -, cut⟩ := Text.trim_end_cut s
  exact ⟨after, cut.symm⟩

/-- The pieces of a renumbered text are those of the text, each renumbered. -/
theorem cut (renumbered : Renumbered names quoting s t) :
    Renumbered names quoting (cutFrom quoting s).1 (cutFrom quoting t).1 ∧
      List.Forall₂ (Renumbered names .bare) (cutFrom quoting s).2 (cutFrom quoting t).2 := by
  induction renumbered with
  | done quoting => exact ⟨.done quoting, .nil⟩
  | @name placeholder rest written position named stop listed later ih =>
      rw [(placeholder_inert named).cut, (position_mark_inert _).cut]
      exact ⟨.name named (stop_of_start (first_piece .bare rest) stop) listed ih.1, ih.2⟩
  | @other quoting c rest written plain later ih =>
      rw [cutFrom, cutFrom]
      by_cases cut : c = ';' ∧ quoting = .bare
      · have state : quoting.step c = .bare := by rw [cut.1, cut.2]; rfl
        rw [if_pos cut, if_pos cut]
        rw [state] at ih ⊢
        have ends : ∀ next ∈ ([] : Text).head?, Text.isAsciiWordChar next = false :=
          fun next head => absurd head (Option.not_mem_none next)
        exact ⟨.other (fun _ _ => ends) (.done _), .cons ih.1 ih.2⟩
      · rw [if_neg cut, if_neg cut]
        refine ⟨.other ?_ ih.1, ih.2⟩
        exact fun mark bare => stop_of_start (first_piece _ rest) (plain mark bare)

theorem trim_start (renumbered : Renumbered names quoting s t) :
    Renumbered names quoting (Text.trimStart s) (Text.trimStart t) := by
  induction renumbered with
  | done quoting => exact .done quoting
  | name named stop listed later =>
      rw [Text.trim_start_of_head ((placeholder_inert named).head_solid _),
        Text.trim_start_of_head ((position_mark_inert _).head_solid _)]
      exact .name named stop listed later
  | @other quoting c rest written plain later ih =>
      by_cases blank : Text.isBlank c = true
      · have run : quoting.run [c] = quoting :=
          blanks_run (List.forall_mem_singleton.mpr blank) quoting
        have state : quoting.step c = quoting := run
        have both (s : Text) : Text.trimStart (c :: s) = Text.trimStart s :=
          List.dropWhile_cons_of_pos blank
        rw [both, both, ← state]
        exact ih
      · have both (s : Text) : Text.trimStart (c :: s) = c :: s :=
          List.dropWhile_cons_of_neg blank
        rw [both, both]
        exact .other plain later

theorem trim_end (renumbered : Renumbered names quoting s t) :
    Renumbered names quoting (Text.trimEnd s) (Text.trimEnd t) := by
  induction renumbered with
  | done quoting => exact .done quoting
  | @name placeholder rest written position named stop listed later ih =>
      rw [Text.trim_end_append (placeholder_inert named).last_solid,
        Text.trim_end_append (position_mark_inert _).last_solid]
      exact .name named (stop_of_start (trimmed_end rest) stop) listed ih
  | @other quoting c rest written plain later ih =>
      have same : (Text.trimEnd rest = [] ∧ Text.isBlank c = true) ↔
          Text.trimEnd written = [] ∧ Text.isBlank c = true := and_congr_left' ih.nil_iff
      rw [Text.trim_end_cons, Text.trim_end_cons]
      by_cases void : Text.trimEnd rest = [] ∧ Text.isBlank c = true
      · rw [if_pos void, if_pos (same.mp void)]
        exact .done quoting
      · rw [if_neg void, if_neg (mt same.mpr void)]
        exact .other (fun mark bare => stop_of_start (trimmed_end rest) (plain mark bare)) ih

theorem trim (renumbered : Renumbered names quoting s t) :
    Renumbered names quoting (Text.trim s) (Text.trim t) :=
  renumbered.trim_start.trim_end

/-- The statements of a renumbered text are those of the text, each renumbered. -/
theorem split (renumbered : Renumbered names .bare s t) :
    List.Forall₂ (Renumbered names .bare) (Sql.split s) (Sql.split t) := by
  obtain ⟨first, later⟩ := renumbered.cut
  have pieces : List.Forall₂ (Renumbered names .bare) (pieces s) (pieces t) := .cons first later
  have trimmed := List.rel_map (fun _ _ each => Renumbered.trim each) pieces
  refine List.rel_filter (fun a b each => ?_) trimmed
  change (!isVoid a) = true ↔ (!isVoid b) = true
  rw [each.void_eq]

/-- A text is numbered by replacing its names. -/
theorem of_fragments (quoting : Quoting) (s : Text)
    (listed : ∀ name, .placeholder name ∈ fragmentsFrom quoting s -> name ∈ names) :
    Renumbered names quoting s ((fragmentsFrom quoting s).flatMap (positional names)) := by
  fun_induction fragmentsFrom quoting s with
  | case1 quoting => exact .done quoting
  | case2 quoting c rest name found ih =>
      obtain ⟨rfl, rfl, nonempty⟩ := found
      have named : IsPlaceholder ('@' :: name) :=
        ⟨name, rfl, nonempty, fun c => List.mem_takeWhile_imp⟩
      have member := listed ('@' :: name) List.mem_cons_self
      have position : names[names.idxOf ('@' :: name)]? = some ('@' :: name) :=
        List.getElem?_idxOf member
      have whole : '@' :: rest = ('@' :: name) ++ rest.dropWhile Text.isAsciiWordChar :=
        congrArg (List.cons '@') List.takeWhile_append_dropWhile.symm
      rw [whole]
      exact .name named Text.drop_while_head position
        (ih fun other behind => listed other (List.mem_cons_of_mem _ behind))
  | case3 quoting c rest name missing ih =>
      refine .other ?_ (ih fun other behind => listed other (List.mem_cons_of_mem _ behind))
      intro mark bare next head
      by_contra word
      apply missing
      refine ⟨mark, bare, ?_⟩
      obtain ⟨rest, rfl⟩ := List.head?_eq_some_iff.mp head
      simp [name, word]

end Renumbered

section Appearance

variable {names : List Text}

/-- What is left out of a list is left out of its first appearances. The recursion is on the length,
for a name is taken off together with all its later appearances. -/
theorem erase_filter (kept : Text -> Bool) (names : List Text) :
    (names.filter kept).eraseDups = names.eraseDups.filter kept := by
  match names with
  | [] => rfl
  | name :: later =>
      have shorter := List.length_filter_le (fun other => !other == name) later
      have rest := erase_filter kept (later.filter fun other => !other == name)
      rw [List.filter_filter] at rest
      rw [List.eraseDups_cons, List.filter_cons, List.filter_cons]
      by_cases own : kept name = true
      · rw [if_pos own, if_pos own, List.eraseDups_cons, List.filter_filter, ← rest]
        simp only [Bool.and_comm]
      · rw [if_neg own, if_neg own, ← rest]
        congr 1
        refine List.filter_congr fun other _ => ?_
        by_cases same : other = name
        · simp [same, own]
        · simp [same]
termination_by names.length

theorem erased_distinct (names : List Text) : names.eraseDups.Nodup := by
  match names with
  | [] => exact .nil
  | name :: later =>
      have shorter := List.length_filter_le (fun other => !other == name) later
      have rest := erased_distinct (later.filter fun other => !other == name)
      rw [List.eraseDups_cons, List.nodup_cons]
      refine ⟨?_, rest⟩
      rw [List.mem_eraseDups, List.mem_filter]
      simp
termination_by names.length

/-- Where each list comes with its first appearances, those of all of them stay the same. -/
theorem erase_each (lists : List (List Text)) :
    (lists.flatMap List.eraseDups).eraseDups = lists.flatten.eraseDups := by
  induction lists with
  | nil => rfl
  | cons names lists ih =>
      have held (others : List Text) : others.removeAll names.eraseDups = others.removeAll names :=
        List.filter_congr fun name _ => by simp [List.mem_eraseDups]
      rw [List.flatMap_cons, List.flatten_cons, List.eraseDups_append, List.eraseDups_append,
        erase_distinct (erased_distinct names), held, List.removeAll, List.removeAll, erase_filter,
        erase_filter, ih]

end Appearance

section Mentions

variable {piece : Text}

/-- Behind a closed piece reading starts as at the start of a text. -/
theorem fragments_of_closed (closed : IsClosed piece) (rest : Text) :
    fragments (piece ++ rest) = fragments piece ++ fragments rest := by
  obtain ⟨body, rfl, -, bare⟩ := closed
  have stop (later : Text) : ∀ c ∈ (';' :: later).head?, Text.isAsciiWordChar c = false := by
    intro c head
    cases head
    decide
  have mark (later : Text) :
      fragmentsFrom .bare (';' :: later) = .literal ';' :: fragments later := by
    rw [fragmentsFrom, if_neg fun placeholder => absurd placeholder.1 (by decide)]
    rfl
  have read (later : Text) :
      fragments (body ++ ';' :: later) = fragments body ++ .literal ';' :: fragments later := by
    rw [fragments, fragments_append .bare body (stop later), bare, mark]
    rfl
  have alone : fragments [] = [] := by rw [fragments, fragmentsFrom]
  rw [List.append_assoc, List.singleton_append, read, read, alone, List.append_assoc,
    List.singleton_append]

/-- A text is read piece by piece. -/
theorem fragments_of_pieces (sql : Text) : fragments sql = (pieces sql).flatMap fragments := by
  obtain ⟨closed, last, each, hidden, rfl⟩ := exists_parts sql
  rw [pieces_of_parts each, pieces_of_hidden hidden]
  induction closed with
  | nil => simp
  | cons piece closed ih =>
      have later := ih fun next member => each next (List.mem_cons_of_mem piece member)
      rw [List.flatten_cons, List.append_assoc, fragments_of_closed (each piece List.mem_cons_self),
        later]
      rfl

theorem fragments_of_blanks {blanks : Text} (blank : ∀ c ∈ blanks, Text.isBlank c = true)
    (quoting : Quoting) (rest : Text) :
    fragmentsFrom quoting (blanks ++ rest) =
      blanks.map .literal ++ fragmentsFrom quoting rest := by
  have hidden : quoting.Hides '@' blanks :=
    Quoting.hides_of_absent fun member => absurd (blank '@' member) (by decide)
  rw [fragments_of_hidden hidden, blanks_run blank]

/-- Trimming takes no name away. -/
theorem mentioned_trim (s : Text) : mentioned (Text.trim s) = mentioned s := by
  obtain ⟨before, after, blankBefore, blankAfter, cut⟩ := Text.trim_cut s
  have stop : ∀ c ∈ after.head?, Text.isAsciiWordChar c = false := fun c head =>
    not_ascii_word (blank_not_word (blankAfter c (List.mem_of_mem_head? head)))
  have behind := fragments_of_blanks blankAfter (Quoting.bare.run (Text.trim s)) []
  rw [List.append_nil, fragmentsFrom, List.append_nil] at behind
  have read : fragments s =
      before.map .literal ++ (fragments (Text.trim s) ++ after.map .literal) := by
    conv_lhs => rw [cut, fragments, fragments_of_blanks blankBefore, fragments_append .bare _ stop,
      behind]
    rfl
  rw [mentioned, mentioned, read, List.filterMap_append, List.filterMap_append, literals_unnamed,
    literals_unnamed, List.nil_append, List.append_nil]

theorem mentioned_void {s : Text} (void : isVoid s = true) : mentioned s = [] := by
  simp only [isVoid, Bool.or_eq_true, decide_eq_true_eq] at void
  rcases void with rfl | rfl
  · simp [mentioned, fragments, fragmentsFrom]
  · simp [mentioned, fragments, fragmentsFrom, Fragment.name?]

/-- The names of a script are those of its statements. -/
theorem mentioned_in_statements (pieces : List Text) :
    (statements pieces).flatMap mentioned = pieces.flatMap mentioned := by
  induction pieces with
  | nil => rfl
  | cons piece later ih =>
      rw [statements_cons, List.flatMap_cons, ← ih]
      cases void : isVoid (Text.trim piece) with
      | true =>
          rw [if_pos rfl, ← mentioned_trim, mentioned_void void, List.nil_append]
      | false => rw [if_neg nofun, List.flatMap_cons, mentioned_trim]

theorem mentioned_in_split (sql : Text) : (split sql).flatMap mentioned = mentioned sql := by
  change (statements (pieces sql)).flatMap mentioned = _
  rw [mentioned_in_statements, mentioned, fragments_of_pieces, List.filterMap_flatMap]
  rfl

end Mentions

/-- A script is numbered and then split as it is split and then numbered. The names are those of the
statements in the order of their first appearance, and each statement of the numbered script is the
statement at its place with the names replaced by their positions in the whole. -/
theorem numbering_commutes_with_split (sql : Text) :
    ((split sql).flatMap fun statement => (number statement).names).eraseDups =
        (number sql).names ∧
      (number sql).names.Nodup ∧
      List.Forall₂ (Renumbered (number sql).names .bare) (split sql) (split (number sql).sql) := by
  refine ⟨?_, erased_distinct _, ?_⟩
  · have each := erase_each ((split sql).map mentioned)
    rw [List.flatMap_map, ← List.flatMap_def, mentioned_in_split] at each
    exact each
  · apply Renumbered.split
    exact .of_fragments .bare sql fun name member => mem_names_iff.mpr member

end Sql
end SqlPipeline
