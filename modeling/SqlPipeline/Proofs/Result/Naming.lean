import Mathlib.Data.List.Nodup
import SqlPipeline.Proofs.Text.Cut
import SqlPipeline.Proofs.Text.LetterCase
import SqlPipeline.Result.Column

/-!
Names of columns. A name and the numbers behind it make names that differ in lower case, so that among
more of them than there are taken names one is free. The first free one is chosen, and the names of a
table therefore differ from each other in every letter case.
-/

namespace SqlPipeline
namespace Result
namespace Column

/-- The digits behind the last mark of a text. -/
theorem digits_behind_mark (stem : Text) (number : Nat) :
    (stem ++ '_' :: Text.decimal number).reverse.takeWhile Text.isAsciiDigit =
      (Text.decimal number).reverse := by
  rw [List.reverse_append, List.reverse_cons, List.append_assoc]
  refine Text.take_while_run _ ?_ (by simp; decide)
  intro c member
  exact Text.decimal_digits number c (List.mem_reverse.mp member)

theorem suffixed_injective {base : Text} {first second : Nat}
    (same : Text.lower (suffixed base first) = Text.lower (suffixed base second)) :
    first = second := by
  obtain ⟨stem, lowered⟩ := Text.lower_numbered base first
  obtain ⟨other, loweredToo⟩ := Text.lower_numbered base second
  rw [suffixed, suffixed, lowered, loweredToo] at same
  have digits : (Text.decimal first).reverse = (Text.decimal second).reverse := by
    rw [← digits_behind_mark stem first, same, digits_behind_mark]
  have worth := Text.digits_decimal first
  rw [List.reverse_injective digits, Text.digits_decimal] at worth
  exact (Option.some.inj worth).symm

/-- The candidates from a number on are taken up to the one that is chosen, and that one is free
unless it is the last. -/
theorem free_from_spec (base : Text) (taken : List Text) (fuel number : Nat) :
    ∃ chosen, number ≤ chosen ∧ chosen ≤ number + fuel ∧
      freeFrom base taken fuel number = suffixed base chosen ∧
      (∀ earlier, number ≤ earlier -> earlier < chosen ->
        isTaken taken (suffixed base earlier) = true) ∧
      (isTaken taken (suffixed base chosen) = false ∨ chosen = number + fuel) := by
  induction fuel generalizing number with
  | zero =>
      exact ⟨number, Nat.le_refl _, Nat.le_refl _, rfl, fun earlier from_ below => by omega,
        .inr rfl⟩
  | succ fuel ih =>
      cases held : isTaken taken (suffixed base number) with
      | false =>
          refine ⟨number, Nat.le_refl _, Nat.le_add_right _ _, ?_, fun earlier from_ below => by omega,
            .inl held⟩
          rw [freeFrom, held]
          rfl
      | true =>
          obtain ⟨chosen, after, within, found, before, last⟩ := ih (number + 1)
          refine ⟨chosen, by omega, by omega, ?_, ?_, ?_⟩
          · rw [freeFrom, held]
            exact found
          · intro earlier from_ below
            rcases Nat.eq_or_lt_of_le from_ with rfl | later
            · exact held
            · exact before earlier later below
          · rcases last with free | same
            · exact .inl free
            · exact .inr (by omega)

theorem taken_iff {taken : List Text} {name : Text} :
    isTaken taken name = true ↔ Text.lower name ∈ taken :=
  List.contains_iff_mem

/-- A number behind a name makes it longer in lower case. -/
theorem lower_suffixed_ne (base : Text) (number : Nat) :
    Text.lower (suffixed base number) ≠ Text.lower base := by
  intro same
  have length := congrArg List.length same
  rw [suffixed, Text.length_lower_append, Text.lower, Text.lower, Text.length_lower_after _ ('_' :: _),
    List.length_cons] at length
  omega

/-- The names that are tried for a column, in order. -/
def candidate (base : Text) : Nat -> Text
  | 0 => base
  | number + 1 => suffixed base (number + 1)

theorem candidates_apart (base : Text) :
    Function.Injective fun number => Text.lower (candidate base number) := by
  intro first second same
  cases first with
  | zero =>
      cases second with
      | zero => rfl
      | succ second => exact absurd same.symm (lower_suffixed_ne base _)
  | succ first =>
      cases second with
      | zero => exact absurd same (lower_suffixed_ne base _)
      | succ second => exact suffixed_injective same

/-- Of one candidate more than there are taken names, one is free. -/
theorem some_candidate_free (base : Text) (taken : List Text) :
    ∃ number ≤ taken.length, Text.lower (candidate base number) ∉ taken := by
  by_contra! each
  let candidates := (List.range (taken.length + 1)).map fun number =>
    Text.lower (candidate base number)
  have distinct : candidates.Nodup := List.Nodup.map (candidates_apart base) List.nodup_range
  have within : candidates ⊆ taken := by
    intro name member
    obtain ⟨number, inside, rfl⟩ := List.mem_map.mp member
    exact each number (Nat.le_of_lt_succ (List.mem_range.mp inside))
  have short := distinct.length_le_of_subset within
  rw [List.length_map, List.length_range] at short
  omega

/-- The name that is chosen is the first candidate that is free, so that the names tried before it
are all taken. -/
theorem free_spec (base : Text) (taken : List Text) :
    ∃ turns ≤ taken.length, free base taken = candidate base turns ∧
      Text.lower (candidate base turns) ∉ taken ∧
      ∀ earlier < turns, Text.lower (candidate base earlier) ∈ taken := by
  by_cases occupied : isTaken taken base = true
  · obtain ⟨chosen, after, within, found, before, last⟩ :=
      free_from_spec base taken taken.length 1
    have held : ∀ earlier < chosen, Text.lower (candidate base earlier) ∈ taken := by
      intro earlier below
      cases earlier with
      | zero => exact taken_iff.mp occupied
      | succ number => exact taken_iff.mp (before (number + 1) (Nat.le_add_left 1 number) below)
    obtain ⟨spare, bound, vacant⟩ := some_candidate_free base taken
    have reached : chosen ≤ spare := Nat.le_of_not_lt fun below => vacant (held spare below)
    have name : candidate base chosen = suffixed base chosen := by
      obtain ⟨number, rfl⟩ := Nat.exists_eq_add_of_le' after
      rfl
    refine ⟨chosen, Nat.le_trans reached bound, ?_, ?_, held⟩
    · rw [free, if_pos occupied, found, name]
    · rcases last with free | same
      · rw [name, ← taken_iff, free]
        exact Bool.false_ne_true
      · omega
  · exact ⟨0, Nat.zero_le _, if_neg occupied, fun held => occupied (taken_iff.mpr held), nofun⟩

theorem free_not_taken (base : Text) (taken : List Text) :
    Text.lower (free base taken) ∉ taken := by
  obtain ⟨turns, _, chosen, vacant, _⟩ := free_spec base taken
  rwa [chosen]

theorem length_distinct_from (position : Nat) (taken : List Text)
    (pairs : List (Option Text × Option Text)) :
    (distinctFrom position taken pairs).length = pairs.length := by
  induction pairs generalizing position taken with
  | nil => rfl
  | cons pair pairs ih =>
      obtain ⟨name?, declared?⟩ := pair
      rw [distinctFrom, List.length_cons, ih, List.length_cons]

/-- A column keeps the declared type that it is given, and that decides the type of its cells. -/
theorem declared_from {position : Nat} {taken : List Text}
    {pairs : List (Option Text × Option Text)} {column : Column}
    (member : column ∈ distinctFrom position taken pairs) :
    column.type = .ofDeclared column.declared? ∧ ∃ pair ∈ pairs, column.declared? = pair.2 := by
  induction pairs generalizing position taken with
  | nil => cases member
  | cons pair pairs ih =>
      obtain ⟨name?, declared?⟩ := pair
      rcases List.mem_cons.mp member with rfl | later
      · exact ⟨rfl, _, List.mem_cons_self, rfl⟩
      · obtain ⟨type, pair, inside, declared⟩ := ih later
        exact ⟨type, pair, List.mem_cons_of_mem _ inside, declared⟩

/-- A column's name as it is compared. -/
def lowerName (column : Column) : Text :=
  Text.lower column.name

theorem distinct_from_names (position : Nat) (taken : List Text)
    (pairs : List (Option Text × Option Text)) :
    ((distinctFrom position taken pairs).map lowerName).Nodup ∧
      ∀ column ∈ distinctFrom position taken pairs, column.lowerName ∉ taken := by
  induction pairs generalizing position taken with
  | nil => exact ⟨.nil, by simp [distinctFrom]⟩
  | cons pair pairs ih =>
      obtain ⟨name?, declared?⟩ := pair
      let name := free (baseName position name?) taken
      obtain ⟨later, apart⟩ := ih (position + 1) (Text.lower name :: taken)
      rw [distinctFrom]
      constructor
      · refine List.nodup_cons.mpr ⟨?_, later⟩
        intro member
        obtain ⟨column, inside, same⟩ := List.mem_map.mp member
        exact apart column inside (same ▸ List.mem_cons_self)
      · intro column member
        rcases List.mem_cons.mp member with rfl | inside
        · exact free_not_taken _ taken
        · exact fun held => apart column inside (List.mem_cons_of_mem _ held)

theorem names_distinct (pairs : List (Option Text × Option Text)) :
    ((distinct pairs).map lowerName).Nodup :=
  (distinct_from_names 0 [] pairs).1

end Column
end Result
end SqlPipeline
