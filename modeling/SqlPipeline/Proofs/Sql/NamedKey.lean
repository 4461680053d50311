import SqlPipeline.Proofs.Sql.KeyPredicate
import SqlPipeline.Proofs.Sql.Numbering

/-!
Which placeholders of a predicate are names of the statement. The search for a predicate does not
look at quotes and takes every word for a name; the numbering passes over quoted text and knows
names of ASCII only. Where a predicate opens outside quotes, each of its placeholders stands outside
quotes, and one that is written in ASCII is numbered.
-/

namespace SqlPipeline
namespace Sql

/-- A mark and a name of ASCII word characters. -/
def IsPlaceholder (placeholder : Text) : Prop :=
  ∃ name, placeholder = '@' :: name ∧ name ≠ [] ∧ ∀ c ∈ name, Text.isAsciiWordChar c = true

/-- A placeholder stands outside quotes in a text, and its word ends there. -/
def StandsIn (placeholder s : Text) : Prop :=
  ∃ before after, s = before ++ (placeholder ++ after) ∧ Quoting.bare.run before = .bare ∧
    EndsWord after

variable {placeholder before s rest : Text}

theorem stands_behind (bare : Quoting.bare.run before = .bare) (stands : StandsIn placeholder s) :
    StandsIn placeholder (before ++ s) := by
  obtain ⟨earlier, after, rfl, outside, stop⟩ := stands
  refine ⟨before ++ earlier, after, (List.append_assoc _ _ _).symm, ?_, stop⟩
  rw [Quoting.run_append, bare, outside]

theorem mem_names_iff {name sql : Text} :
    name ∈ (number sql).names ↔ .placeholder name ∈ fragments sql := by
  change name ∈ ((fragments sql).filterMap Fragment.name?).eraseDups ↔ _
  rw [List.mem_eraseDups, List.mem_filterMap]
  constructor
  · rintro ⟨fragment, member, named⟩
    cases fragment with
    | literal c => cases named
    | placeholder found =>
        cases named
        exact member
  · intro member
    exact ⟨_, member, rfl⟩

/-- The numbering knows names of ASCII only. -/
theorem placeholder_of_fragment {name : Text} (quoting : Quoting)
    (member : .placeholder name ∈ fragmentsFrom quoting s) : IsPlaceholder name := by
  fun_induction fragmentsFrom quoting s with
  | case1 => cases member
  | case2 quoting c s word found ih =>
      rcases List.mem_cons.mp member with first | later
      · cases first
        exact ⟨word, rfl, found.2.2, fun c => List.mem_takeWhile_imp⟩
      · exact ih later
  | case3 quoting c s word missing ih =>
      rcases List.mem_cons.mp member with first | later
      · cases first
      · exact ih later

/-- A placeholder outside quotes is a name exactly when it is written in ASCII. -/
theorem named_iff (stands : StandsIn placeholder s) :
    placeholder ∈ (number s).names ↔ IsPlaceholder placeholder := by
  constructor
  · intro member
    exact placeholder_of_fragment .bare (mem_names_iff.mp member)
  · intro plain
    obtain ⟨before, after, rfl, outside, stop⟩ := stands
    obtain ⟨name, rfl, nonempty, ascii⟩ := plain
    have ends : ∀ c ∈ after.head?, Text.isAsciiWordChar c = false := by
      intro c head
      by_contra other
      have word := word_of_ascii (by simpa using other)
      rw [stop c head] at word
      cases word
    rw [mem_names_iff, List.cons_append, fragments_through_name outside nonempty ascii ends]
    exact List.mem_append_right _ List.mem_cons_self

section Unquoted

variable {quoting : Quoting} {keyword word : Text}

theorem word_run (word : IsWord s) : quoting.run s = quoting :=
  Quoting.run_plain (by decide +kernel) (by decide +kernel) word.2

theorem keyword_run (single : foldLetter '\'' ∉ keyword) (double : foldLetter '"' ∉ keyword)
    (spelled : word.map foldLetter = keyword) : quoting.run word = quoting := by
  apply Quoting.run_plain (P := fun c => foldLetter c ∈ keyword) single double
  intro c member
  rw [← spelled]
  exact List.mem_map_of_mem member

/-- The column of keys opens its quotes and closes them. -/
theorem key_column_run {column : Text} (named : column.map foldLetter = "\"id\"".toList) :
    Quoting.bare.run column = .bare := by
  obtain ⟨first, rest, rfl, opened, named⟩ := List.map_eq_cons_iff.mp named
  obtain ⟨i, rest, rfl, capital, named⟩ := List.map_eq_cons_iff.mp named
  obtain ⟨d, rest, rfl, small, named⟩ := List.map_eq_cons_iff.mp named
  obtain ⟨last, rest, rfl, closed, named⟩ := List.map_eq_cons_iff.mp named
  cases List.map_eq_nil_iff.mp named
  have spelled : [i, d].map foldLetter = ['i', 'd'] := by
    rw [List.map_cons, List.map_cons, capital, small]
    rfl
  have inside : Quoting.double.run [i, d] = .double := keyword_run (by decide) (by decide) spelled
  cases quote_of_fold opened
  cases quote_of_fold closed
  change (Quoting.double.run [i, d]).run ['"'] = _
  rw [inside]
  rfl

theorem token_column_run {column : Text} (word : IsWord column) :
    Quoting.bare.run ('"' :: (column ++ ['"'])) = .bare := by
  change Quoting.double.run (column ++ ['"']) = _
  rw [Quoting.run_append, word_run word]
  rfl

end Unquoted

namespace KeyPredicate

/-- A comparison up to its placeholder, and the placeholder. Neither has a quote. -/
theorem parts_of_compares (compares : Compares s placeholder rest) :
    ∃ lead, s = lead ++ (placeholder ++ rest) ∧ Quoting.bare.run lead = .bare ∧
      Quoting.bare.run placeholder = .bare ∧ EndsWord rest := by
  obtain @⟨before, after, name, _, left, right, word, stop⟩ := compares
  refine ⟨before ++ '=' :: after, by simp, ?_, ?_, stop⟩
  · rw [Quoting.run_append, blanks_run left]
    exact blanks_run right .bare
  · change Quoting.bare.run name = .bare
    exact word_run word

theorem token_stands {token : TokenPredicate} (clause : IsTokenClause s token) :
    StandsIn token.placeholder s := by
  obtain @⟨before, conjunction, after, column, _, placeholder, rest, left, spelled, right, word,
    compares⟩ := clause
  obtain ⟨lead, rfl, outside, _, stop⟩ := parts_of_compares compares
  have opening : Quoting.bare.run (before ++ (conjunction ++ (after ++ '"' :: (column ++ ['"'])))) =
      .bare := by
    rw [Quoting.run_append, blanks_run left.2, Quoting.run_append,
      keyword_run (by decide) (by decide) spelled, Quoting.run_append, blanks_run right.2,
      token_column_run word]
  have stands : StandsIn placeholder (lead ++ (placeholder ++ rest)) :=
    ⟨lead, rest, rfl, outside, stop⟩
  simpa using stands_behind opening stands

theorem placeholders_stand {predicate : KeyPredicate} (opens : Opens s predicate) :
    StandsIn predicate.key s ∧
      ∀ token, predicate.token? = some token -> StandsIn token.placeholder s := by
  obtain @⟨opening, gap, column, _, key, rest, spelled, blank, named, compares⟩ := opens
  obtain ⟨lead, rfl, outside, keyRun, stop⟩ := parts_of_compares compares
  have openingRun : Quoting.bare.run (opening ++ (gap ++ column)) = .bare := by
    rw [Quoting.run_append, keyword_run (by decide) (by decide) spelled, Quoting.run_append,
      blanks_run blank.2, key_column_run named]
  have whole : opening ++ (gap ++ (column ++ (lead ++ (key ++ rest)))) =
      opening ++ (gap ++ column) ++ (lead ++ (key ++ rest)) := by
    simp only [List.append_assoc]
  rw [whole]
  constructor
  · exact stands_behind openingRun ⟨lead, rest, rfl, outside, stop⟩
  · intro token present
    have stands := token_stands (token_clause_iff.mp present)
    exact stands_behind openingRun (stands_behind outside (stands_behind keyRun stands))

/-- A predicate outside quotes compares with names of its statement. -/
theorem placeholders_named {rest : Text} {predicate : KeyPredicate} (opens : Opens rest predicate)
    (bare : Quoting.bare.run before = .bare) :
    (IsPlaceholder predicate.key -> predicate.key ∈ (number (before ++ rest)).names) ∧
      ∀ token, predicate.token? = some token -> IsPlaceholder token.placeholder ->
        token.placeholder ∈ (number (before ++ rest)).names := by
  obtain ⟨key, tokens⟩ := placeholders_stand opens
  constructor
  · exact (named_iff (stands_behind bare key)).mpr
  · intro token present
    exact (named_iff (stands_behind bare (tokens token present))).mpr

end KeyPredicate

end Sql
end SqlPipeline
