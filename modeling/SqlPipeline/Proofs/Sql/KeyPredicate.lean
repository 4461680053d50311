import SqlPipeline.Proofs.Sql.Lexeme

/-!
The predicate of a key, written out. The reader accepts exactly what is written in these forms, with
any runs of blanks and keywords in any letter case, and the first such place in a text counts.
-/

namespace SqlPipeline
namespace Sql
namespace KeyPredicate

/-- A comparison with a placeholder, and what follows it. -/
inductive Compares : Text -> Text -> Text -> Prop where
  | intro {before after name rest : Text} (left : IsBlanks before) (right : IsBlanks after)
      (word : IsWord name) (stop : EndsWord rest) :
      Compares (before ++ '=' :: (after ++ '@' :: (name ++ rest))) ('@' :: name) rest

/-- The comparison of a token, from the blanks before its AND on. -/
inductive IsTokenClause : Text -> TokenPredicate -> Prop where
  | intro {before conjunction after column comparison placeholder rest : Text}
      (left : IsGap before) (spelled : conjunction.map foldLetter = "and".toList)
      (right : IsGap after) (word : IsWord column) (compares : Compares comparison placeholder rest) :
      IsTokenClause (before ++ (conjunction ++ (after ++ '"' :: (column ++ '"' :: comparison))))
        ⟨column, placeholder⟩

/-- A predicate, from its WHERE on. -/
inductive Opens : Text -> KeyPredicate -> Prop where
  | intro {opening gap column comparison key rest : Text}
      (spelled : opening.map foldLetter = "where".toList) (blank : IsGap gap)
      (named : column.map foldLetter = "\"id\"".toList) (compares : Compares comparison key rest) :
      Opens (opening ++ (gap ++ (column ++ comparison))) ⟨key, tokenClause? rest⟩

/-- A predicate is found behind the part of a text in which none opens. -/
structure FoundBehind (before rest : Text) (predicate : KeyPredicate) : Prop where
  opens : Opens rest predicate
  first : ∀ earlier later, before = earlier ++ later -> later ≠ [] ->
    ∀ other, ¬Opens (later ++ rest) other

theorem comparison_iff {s placeholder rest : Text} :
    comparison? s = some (placeholder, rest) ↔ Compares s placeholder rest := by
  simp only [comparison?, placeholder?, Option.bind_eq_bind, Option.bind_eq_some_iff,
    after_char_iff, trim_start_iff, Prod.exists, word_iff, Option.some_inj, Prod.mk.injEq]
  constructor
  · rintro ⟨afterEquals, ⟨before, left, rfl, _⟩, afterMark, ⟨after, right, rfl, _⟩, name, ending,
      ⟨word, rfl, stop⟩, rfl, rfl⟩
    exact .intro left right word stop
  · rintro ⟨left, right, word, stop⟩
    exact ⟨_, ⟨_, left, rfl, mark_solid (by decide) _⟩, _, ⟨_, right, rfl, mark_solid (by decide) _⟩,
      _, _, ⟨word, rfl, stop⟩, rfl, rfl⟩

theorem token_clause_iff {s : Text} {token : TokenPredicate} :
    tokenClause? s = some token ↔ IsTokenClause s token := by
  simp only [tokenClause?, Option.bind_eq_bind, Option.bind_eq_some_iff, after_char_iff,
    after_blanks_iff, after_keyword_iff, Prod.exists, word_iff, comparison_iff, Option.some_inj]
  constructor
  · rintro ⟨_, ⟨before, left, rfl, _⟩, _, ⟨conjunction, spelled, rfl⟩, _, ⟨after, right, rfl, _⟩,
      _, rfl, column, _, ⟨word, rfl, _⟩, comparison, rfl, placeholder, rest, compares, rfl⟩
    exact .intro left spelled right word compares
  · rintro ⟨left, spelled, right, word, compares⟩
    exact ⟨_, ⟨_, left, rfl, keyword_solid spelled (by decide) (by decide) _⟩,
      _, ⟨_, spelled, rfl⟩, _, ⟨_, right, rfl, mark_solid (by decide) _⟩, _, rfl, _, _,
      ⟨word, rfl, mark_ends_word (by decide +kernel) _⟩, _, rfl, _, _, compares, rfl⟩

theorem match_iff {s : Text} {predicate : KeyPredicate} :
    match? s = some predicate ↔ Opens s predicate := by
  simp only [match?, Option.bind_eq_bind, Option.bind_eq_some_iff, after_blanks_iff,
    after_keyword_iff, Prod.exists, comparison_iff, Option.some_inj]
  constructor
  · rintro ⟨_, ⟨opening, spelled, rfl⟩, _, ⟨gap, blank, rfl, _⟩, _, ⟨column, named, rfl⟩, key, rest,
      compares, rfl⟩
    exact .intro spelled blank named compares
  · rintro ⟨spelled, blank, named, compares⟩
    exact ⟨_, ⟨_, spelled, rfl⟩,
      _, ⟨_, blank, rfl, keyword_solid named (by decide) (by decide) _⟩, _, ⟨_, named, rfl⟩, _, _,
      compares, rfl⟩

theorem find_of_opens {s : Text} {predicate : KeyPredicate} (opens : Opens s predicate) :
    find? s = some predicate := by
  have here := match_iff.mpr opens
  cases s with
  | nil => cases here
  | cons c s => rw [find?, here, Option.some_or]

/-- Where no predicate opens the search goes on. -/
theorem find_behind {before rest : Text}
    (none : ∀ earlier later, before = earlier ++ later -> later ≠ [] ->
      ∀ other, ¬Opens (later ++ rest) other) : find? (before ++ rest) = find? rest := by
  induction before with
  | nil => rfl
  | cons c before ih =>
      have here : match? (c :: (before ++ rest)) = Option.none := by
        rw [Option.eq_none_iff_forall_ne_some]
        intro other found
        exact none [] (c :: before) rfl (by simp) other (match_iff.mp found)
      rw [List.cons_append, find?, here, Option.none_or]
      apply ih
      intro earlier later cut
      exact none (c :: earlier) later (by rw [cut]; rfl)

theorem find_iff {sql : Text} {predicate : KeyPredicate} :
    find? sql = some predicate ↔
      ∃ before rest, sql = before ++ rest ∧ FoundBehind before rest predicate := by
  constructor
  · intro found
    induction sql with
    | nil => cases found
    | cons c sql ih =>
        rw [find?] at found
        cases here : match? (c :: sql) with
        | some opened =>
            rw [here] at found
            cases found
            refine ⟨[], c :: sql, rfl, match_iff.mp here, ?_⟩
            intro earlier later cut nonempty
            exact absurd (List.append_eq_nil_iff.mp cut.symm).2 nonempty
        | none =>
            rw [here, Option.none_or] at found
            obtain ⟨before, rest, rfl, behind⟩ := ih found
            refine ⟨c :: before, rest, rfl, behind.opens, ?_⟩
            intro earlier later cut nonempty other opened
            cases earlier with
            | nil =>
                rw [List.nil_append] at cut
                rw [← cut] at opened
                have found := match_iff.mpr opened
                rw [List.cons_append, here] at found
                cases found
            | cons first earlier =>
                rw [List.cons_append, List.cons.injEq] at cut
                exact behind.first earlier later cut.2 nonempty other opened
  · rintro ⟨before, rest, rfl, opens, first⟩
    rw [find_behind first, find_of_opens opens]

section Silence

variable {opening s gap rest : Text}

theorem opening_letters (spelled : opening.map foldLetter = "where".toList) :
    ∀ c ∈ opening, foldLetter c ∈ "where".toList := by
  intro c member
  rw [← spelled]
  exact List.mem_map_of_mem member

theorem opening_lower (spelled : opening.map foldLetter = "where".toList) :
    opening.map Char.toLower = "where".toList := by
  have other : ∀ letter ∈ "where".toList, letter ≠ 'i' ∧ letter ≠ 's' ∧ letter ≠ 'k' := by decide
  rw [← spelled, List.map_inj_left]
  intro c member
  exact lower_of_fold (other _ (opening_letters spelled c member)) rfl

theorem opening_not_blank (spelled : opening.map foldLetter = "where".toList) :
    ∀ c ∈ opening, Text.isBlank c = false := by
  have solid : ∀ letter ∈ "where".toList, Text.isBlank letter = false := by decide
  intro c member
  by_contra blank
  rw [Bool.not_eq_false] at blank
  have letter := opening_letters spelled c member
  rw [fold_of_blank blank] at letter
  rw [solid c letter] at blank
  cases blank

theorem opens_solid {predicate : KeyPredicate} (opens : Opens s predicate) : IsSolid s := by
  obtain ⟨spelled, blank, named, compares⟩ := opens
  exact keyword_solid spelled (by decide) (by decide) _

theorem find_behind_gap (blank : IsGap gap) : find? (gap ++ rest) = find? rest := by
  apply find_behind
  intro earlier later cut nonempty other opens
  obtain ⟨c, later, rfl⟩ := List.exists_cons_of_ne_nil nonempty
  have inside : c ∈ gap := by simp [cut]
  have solid : Text.isBlank c = false := opens_solid opens c rfl
  rw [blank.2 c inside] at solid
  cases solid

theorem mentions_within (earlier later : Text) {word : Text}
    (small : word.map Char.toLower = "where".toList) :
    Mentions "where" (earlier ++ (word ++ later)) := by
  refine ⟨earlier.map Char.toLower, later.map Char.toLower, ?_⟩
  rw [List.map_append, List.map_append, small, List.append_assoc]

/-- A text that mentions no WHERE, and that a gap ends, has no part in a predicate. The letters of
a WHERE stand together, so that none begins in the text and ends behind the gap. -/
theorem find_behind_silent (silent : ¬Mentions "where" s) (blank : IsGap gap) :
    find? (s ++ (gap ++ rest)) = find? rest := by
  have behind : find? (gap ++ rest) = find? rest := find_behind_gap blank
  rw [← behind]
  apply find_behind
  intro earlier later cut nonempty other opens
  subst cut
  generalize whole : later ++ (gap ++ rest) = text at opens
  obtain ⟨spelled, _, _, _⟩ := opens
  rcases List.append_eq_append_iff.mp whole with ⟨x, opening, tail⟩ | ⟨x, rfl, tail⟩
  · cases x with
    | nil =>
        rw [List.append_nil] at opening
        subst opening
        have mentions := mentions_within earlier [] (opening_lower spelled)
        rw [List.append_nil] at mentions
        exact silent mentions
    | cons c x =>
        obtain ⟨first, blanks, rfl⟩ := List.exists_cons_of_ne_nil blank.1
        rw [List.cons_append, List.cons_append, List.cons.injEq] at tail
        have solid := opening_not_blank spelled c (by simp [opening])
        rw [← tail.1, blank.2 first List.mem_cons_self] at solid
        cases solid
  · exact silent (mentions_within _ _ (opening_lower spelled))

end Silence

end KeyPredicate
end Sql
end SqlPipeline
