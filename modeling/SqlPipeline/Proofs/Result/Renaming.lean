import Mathlib.Order.Bounds.Basic
import SqlPipeline.Proofs.Result.Naming

/-!
How a column comes by its name. A name that is taken is tried again with a number behind it, from one
on, until it is free. This search has no bound of its own; it ends since it takes no more turns than
there are columns before, and it ends at the least number that is free. The columns keep their order
and their declared types.
-/

namespace SqlPipeline
namespace Result
namespace Column

/-- The search for a name, turn by turn: as long as the name at hand is taken, the next number is put
behind the base. -/
inductive Search (taken : List Text) (base : Text) : Text -> Nat -> Nat -> Text -> Prop where
  | free {name : Text} {next : Nat} (vacant : Text.lower name ∉ taken) :
      Search taken base name next 0 name
  | turn {name last : Text} {next turns : Nat} (held : Text.lower name ∈ taken)
      (later : Search taken base (suffixed base next) (next + 1) turns last) :
      Search taken base name next (turns + 1) last

namespace Search

variable {taken : List Text} {base name last other : Text} {next turns others : Nat}

/-- The search can go in one way only. -/
theorem unique (search : Search taken base name next turns last)
    (again : Search taken base name next others other) : others = turns ∧ other = last := by
  induction search generalizing others with
  | free vacant =>
      cases again with
      | free => exact ⟨rfl, rfl⟩
      | turn held => exact absurd held vacant
  | turn held later ih =>
      cases again with
      | free vacant => exact absurd held vacant
      | turn _ laterToo =>
          obtain ⟨rfl, rfl⟩ := ih laterToo
          exact ⟨rfl, rfl⟩

/-- The search passes the candidates that are taken, in order, and ends at one that is free. -/
theorem of_candidates (start turns : Nat)
    (vacant : Text.lower (candidate base (start + turns)) ∉ taken)
    (held : ∀ earlier < start + turns, start ≤ earlier ->
      Text.lower (candidate base earlier) ∈ taken) :
    Search taken base (candidate base start) (start + 1) turns (candidate base (start + turns)) := by
  -- Each turn moves the start by one, so that what is held from the start on is held from there on.
  induction turns generalizing start with
  | zero => exact .free vacant
  | succ turns ih =>
      have shift : start + (turns + 1) = start + 1 + turns := by omega
      rw [shift] at vacant held ⊢
      refine .turn (held start (by omega) (Nat.le_refl start)) ?_
      exact ih (start + 1) vacant fun earlier below from_ => held earlier below (by omega)

end Search

/-- How a column is named after a base, behind earlier columns. The search ends, in one way only, after
at most as many turns as there are earlier columns. The name is the base itself where no earlier name
is like it in lower case, and else the base with the least number that no earlier name is like. -/
structure IsNamed (earlier : List Column) (base name : Text) : Prop where
  searched : ∃ turns ≤ earlier.length, ∀ others last,
    Search (earlier.map lowerName) base base 1 others last ↔ others = turns ∧ last = name
  plain : Text.lower base ∉ earlier.map lowerName -> name = base
  numbered : Text.lower base ∈ earlier.map lowerName -> ∃ number, name = suffixed base number ∧
    IsLeast {k | 1 ≤ k ∧ Text.lower (suffixed base k) ∉ earlier.map lowerName} number

/-- The free name that is chosen while the names of the earlier columns are held, the latest first. -/
theorem free_is_named (earlier : List Column) (base : Text) :
    IsNamed earlier base (free base (earlier.map lowerName).reverse) := by
  obtain ⟨turns, bound, chosen, vacant, before⟩ := free_spec base (earlier.map lowerName).reverse
  simp only [List.mem_reverse, List.length_reverse, List.length_map] at bound vacant before
  rw [chosen]
  constructor
  · have search := Search.of_candidates 0 turns (by rwa [Nat.zero_add])
      fun number below _ => before number (by rwa [Nat.zero_add] at below)
    rw [Nat.zero_add turns] at search
    refine ⟨turns, bound, fun others last => ⟨search.unique, ?_⟩⟩
    rintro ⟨rfl, rfl⟩
    exact search
  · intro spare
    cases turns with
    | zero => rfl
    | succ number => exact absurd (before 0 (Nat.succ_pos number)) spare
  · intro occupied
    cases turns with
    | zero => exact absurd occupied vacant
    | succ number =>
        refine ⟨number + 1, rfl, ⟨Nat.le_add_left 1 number, vacant⟩, ?_⟩
        rintro other ⟨positive, alsoVacant⟩
        obtain ⟨smaller, rfl⟩ := Nat.exists_eq_add_of_le' positive
        exact Nat.le_of_not_lt fun below => alsoVacant (before (smaller + 1) below)

/-- Each column gets the name that is free among those of the columns before it. -/
theorem distinct_from_at (position : Nat) (taken : List Text)
    (pairs : List (Option Text × Option Text)) (index : Nat) :
    (distinctFrom position taken pairs)[index]? = pairs[index]?.map fun pair =>
      ofDeclared (free (baseName (position + index) pair.1)
        ((((distinctFrom position taken pairs).take index).map lowerName).reverse ++ taken))
        pair.2 := by
  induction pairs generalizing position taken index with
  | nil => rfl
  | cons pair pairs ih =>
      obtain ⟨name?, declared?⟩ := pair
      cases index with
      | zero => rfl
      | succ index =>
          have place : position + (index + 1) = position + 1 + index := by omega
          rw [distinctFrom, List.getElem?_cons_succ, List.getElem?_cons_succ, ih, place,
            List.take_succ_cons, List.map_cons, List.reverse_cons, List.append_assoc]
          rfl

theorem distinct_at (pairs : List (Option Text × Option Text)) (index : Nat) :
    (distinct pairs)[index]? = pairs[index]?.map fun pair =>
      ofDeclared (free (baseName index pair.1)
        (((distinct pairs).take index).map lowerName).reverse) pair.2 := by
  have stands := distinct_from_at 0 [] pairs index
  rwa [Nat.zero_add, List.append_nil] at stands

/-- The columns of a result keep their number, their order and their declared types, and each is
named behind those before it, after its own name or, without one, after its position. -/
theorem renaming_finds_least (pairs : List (Option Text × Option Text)) :
    (distinct pairs).map declared? = pairs.map Prod.snd ∧
    ∀ (index : Nat) name? declared?, pairs[index]? = some (name?, declared?) ->
      ∃ column, (distinct pairs)[index]? = some column ∧ column.declared? = declared? ∧
        ((distinct pairs).take index).length = index ∧
        IsNamed ((distinct pairs).take index) (baseName index name?) column.name := by
  constructor
  · refine List.ext_getElem? fun index => ?_
    rw [List.getElem?_map, distinct_at, List.getElem?_map, Option.map_map]
    rfl
  · intro index name? declared? stands
    have within : index < (distinct pairs).length := by
      rw [distinct, length_distinct_from]
      exact (List.getElem?_eq_some_iff.mp stands).1
    refine ⟨_, by rw [distinct_at, stands, Option.map_some], rfl, ?_, free_is_named _ _⟩
    rw [List.length_take, Nat.min_eq_left (Nat.le_of_lt within)]

/-- Names that are alike in letter case, missing, numbered already, and numbered like a name that is
missing. -/
def crowded : List (Option Text × Option Text) :=
  [(some "a_1", none), (some "A", some "INTEGER"), (none, none), (some "a", some "TEXT"),
    (some "column2", none), (some "a_2", none)]

/-- The fourth column finds its name taken, and the number one behind it as well. -/
theorem renaming_finds_least_crowded :
    crowded[3]? = some (some "a".toList, some "TEXT".toList) ∧
    IsNamed ((distinct crowded).take 3) "a" "a_2" ∧
    IsLeast {k | 1 ≤ k ∧ Text.lower (suffixed "a" k) ∉ ((distinct crowded).take 3).map lowerName}
      2 := by
  obtain ⟨column, stands, -, -, named⟩ := (renaming_finds_least crowded).2 3 _ _ rfl
  have name : column.name = "a_2".toList := by
    have fourth : (distinct crowded)[3]?.map Column.name = some "a_2".toList := by decide
    rw [stands] at fourth
    exact Option.some.inj fourth
  rw [name] at named
  obtain ⟨number, same, least⟩ := named.numbered (by decide)
  have alike : suffixed "a" 2 = suffixed "a" number := same
  have two : 2 = number := suffixed_injective (congrArg Text.lower alike)
  exact ⟨rfl, named, two ▸ least⟩

end Column
end Result
end SqlPipeline
