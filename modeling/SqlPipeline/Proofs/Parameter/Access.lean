import Mathlib.Order.Bounds.Basic
import SqlPipeline.Proofs.Parameter.Change

/-!
Parameters addressed by name. Whatever was done to the parameters before, a name leads to the first
one that answers to it, with the mark in front or without: that one is found, replaced and removed,
and the others keep their places and stay to be found under their own names.
-/

namespace SqlPipeline
namespace Parameters

open Parameter (normalized)

variable {parameters changed : Parameters} {before after : List Entry}
  {entry found : Entry} {name other : Text}

theorem answers_iff_normalized :
    answersTo name entry = true ↔ normalized entry.parameter.name = normalized name :=
  decide_eq_true_iff

theorem silent_iff_normalized :
    answersTo name entry = false ↔ normalized entry.parameter.name ≠ normalized name :=
  decide_eq_false_iff_not

/-- The positions of the parameters of a name. -/
def positions (parameters : Parameters) (name : Text) : Set Nat :=
  {index | ∃ entry, parameters.entries[index]? = some entry ∧
    normalized entry.parameter.name = normalized name}

theorem index_iff (index : Nat) :
    parameters.indexOf? name = some index ↔ IsLeast (parameters.positions name) index := by
  rw [indexOf?, List.findIdx?_eq_some_iff_getElem]
  constructor
  · rintro ⟨inside, answers, apart⟩
    refine ⟨⟨_, List.getElem?_eq_getElem inside, answers_iff_normalized.mp answers⟩, ?_⟩
    rintro position ⟨entry, stands, same⟩
    obtain ⟨_, rfl⟩ := List.getElem?_eq_some_iff.mp stands
    exact Nat.le_of_not_lt fun below => apart position below (answers_iff_normalized.mpr same)
  · rintro ⟨⟨entry, stands, same⟩, least⟩
    obtain ⟨inside, rfl⟩ := List.getElem?_eq_some_iff.mp stands
    refine ⟨inside, answers_iff_normalized.mpr same, fun position below answers => ?_⟩
    have member : position ∈ parameters.positions name :=
      ⟨_, List.getElem?_eq_getElem (Nat.lt_trans below inside), answers_iff_normalized.mp answers⟩
    exact absurd (least member) (Nat.not_le_of_lt below)

theorem index_none_iff : parameters.indexOf? name = none ↔ parameters.positions name = ∅ := by
  rw [indexOf?, List.findIdx?_eq_none_iff, Set.eq_empty_iff_forall_notMem]
  constructor
  · rintro silent position ⟨entry, stands, same⟩
    exact silent_iff_normalized.mp (silent entry (List.mem_of_getElem? stands)) same
  · intro nowhere entry member
    obtain ⟨position, stands⟩ := List.getElem?_of_mem member
    exact silent_iff_normalized.mpr fun same => nowhere position ⟨entry, stands, same⟩

/-- A parameter that does not answer to a name is passed over in the search for it. -/
theorem find_between (silent : answersTo name entry = false) :
    find? ⟨before ++ entry :: after⟩ name = find? ⟨before ++ after⟩ name := by
  rw [find?, find?, List.find?_append, List.find?_append,
    List.find?_cons_of_neg (Bool.eq_false_iff.mp silent)]

/-- Two spellings of a name that address one parameter; only a message shows which was used. -/
structure Alike (parameters : Parameters) (name other : Text) : Prop where
  find : parameters.find? other = parameters.find? name
  index : parameters.indexOf? other = parameters.indexOf? name
  contains : parameters.contains other = parameters.contains name
  get : (∃ found, parameters.get (.name name) = .ok found ∧ parameters.get (.name other) = .ok found) ∨
    parameters.get (.name name) = .error (.noParameter name) ∧
      parameters.get (.name other) = .error (.noParameter other)
  set : ∀ entry, parameters.set (.name other) entry = parameters.set (.name name) entry
  removeAt : parameters.removeAt (.name other) = parameters.removeAt (.name name)

theorem alike_of_normalized (parameters : Parameters) (same : normalized other = normalized name) :
    parameters.Alike name other := by
  have answers : answersTo other = answersTo name := by
    funext entry
    rw [answersTo, answersTo, same]
  have index : parameters.indexOf? other = parameters.indexOf? name := by
    rw [indexOf?, indexOf?, answers]
  have find : parameters.find? other = parameters.find? name := by
    rw [find?, find?, answers]
  refine ⟨find, index, by rw [contains, contains, index], ?_, fun entry => ?_, ?_⟩
  · rw [get, get, find]
    cases parameters.find? name with
    | some found => exact .inl ⟨found, rfl, rfl⟩
    | none => exact .inr ⟨rfl, rfl⟩
  · rw [set, set, index]
  · rw [removeAt, removeAt, index]

/-- The mark in front of a name may be left out. -/
theorem normalized_marked (unmarked : name.head? ≠ some '@') :
    normalized ('@' :: name) = normalized name := by
  have own : normalized ('@' :: name) = '@' :: name := if_pos rfl
  rw [own, normalized, if_neg unmarked]

/-- The parameters once an entry is assigned to its name: it has the place of the first one of that
name, and otherwise that behind the last. -/
structure IsAssigned (parameters : Parameters) (name : Text) (entry : Entry)
    (changed : Parameters) : Prop where
  found : changed.find? name = some entry
  place : changed.indexOf? name = some ((parameters.indexOf? name).getD parameters.size)
  others : ∀ position ≠ (parameters.indexOf? name).getD parameters.size,
    changed.entries[position]? = parameters.entries[position]?
  size : changed.size = if parameters.contains name then parameters.size else parameters.size + 1
  /-- What answers to another name is found as before. -/
  apart : ∀ other, normalized other ≠ normalized name -> changed.find? other = parameters.find? other

/-- The parameters once a name is removed: the first one of that name is gone. -/
structure IsRemoved (parameters : Parameters) (name : Text) (changed : Parameters) : Prop where
  present : ∀ index, parameters.indexOf? name = some index ->
    changed.entries = parameters.entries.take index ++ parameters.entries.drop (index + 1)
  absent : parameters.indexOf? name = none -> changed = parameters
  /-- What answers to another name is found as before. -/
  apart : ∀ other, normalized other ≠ normalized name -> changed.find? other = parameters.find? other

theorem assigned_in_place (cut : CutAt (answersTo name) parameters.entries before found after)
    (same : normalized entry.parameter.name = normalized name) :
    IsAssigned parameters name entry ⟨before ++ entry :: after⟩ := by
  have index : parameters.indexOf? name = some before.length := cut.index
  have again : CutAt (answersTo name) (before ++ entry :: after) before entry after :=
    ⟨rfl, answers_iff_normalized.mpr same, cut.apart⟩
  have old := answers_iff_normalized.mp cut.own
  refine ⟨again.find, ?_, fun position different => ?_, ?_, fun other different => ?_⟩
  · rw [index]
    exact again.index
  · rw [index, Option.getD_some] at different
    rw [cut.parts, ← set_between before found entry after, List.getElem?_set_ne different.symm]
  · rw [contains, index, Option.isSome_some, if_pos rfl, size, size, cut.parts,
      List.length_append, List.length_append, List.length_cons, List.length_cons]
  · have whole : parameters = ⟨before ++ found :: after⟩ := congrArg Parameters.mk cut.parts
    rw [whole, find_between (silent_iff_normalized.mpr (same ▸ different.symm)),
      find_between (silent_iff_normalized.mpr (old ▸ different.symm))]

theorem assigned_behind (lacks : parameters.Lacks name)
    (same : normalized entry.parameter.name = normalized name) :
    IsAssigned parameters name entry (parameters.add entry) := by
  have index := lacks.index
  have cut : CutAt (answersTo name) (parameters.add entry).entries parameters.entries entry [] :=
    ⟨rfl, answers_iff_normalized.mpr same, lacks⟩
  refine ⟨cut.find, ?_, fun position different => ?_, ?_, fun other different => ?_⟩
  · rw [index]
    exact cut.index
  · rw [index, Option.getD_none, size] at different
    rcases Nat.lt_or_gt_of_ne different with inside | beyond
    · exact List.getElem?_append_left inside
    · rw [List.getElem?_eq_none beyond.le, List.getElem?_eq_none]
      rw [add, List.length_append]
      exact beyond
  · rw [contains, index, Option.isSome_none, if_neg Bool.false_ne_true, size, size, add,
      List.length_append, List.length_singleton]
  · have skipped : find? ⟨parameters.entries ++ [entry]⟩ other =
        find? ⟨parameters.entries ++ []⟩ other :=
      find_between (silent_iff_normalized.mpr (same ▸ different.symm))
    rwa [List.append_nil] at skipped

theorem removed_in_place (cut : CutAt (answersTo name) parameters.entries before found after) :
    IsRemoved parameters name ⟨before ++ after⟩ := by
  have index : parameters.indexOf? name = some before.length := cut.index
  refine ⟨fun position again => ?_, fun none => ?_, fun other different => ?_⟩
  · cases index.symm.trans again
    rw [← List.eraseIdx_eq_take_drop_succ, cut.parts, erase_between]
  · cases index.symm.trans none
  · have whole : parameters = ⟨before ++ found :: after⟩ := congrArg Parameters.mk cut.parts
    have old := answers_iff_normalized.mp cut.own
    rw [whole, find_between (silent_iff_normalized.mpr (old ▸ different.symm))]

theorem removed_nothing (lacks : parameters.Lacks name) :
    IsRemoved parameters name parameters := by
  refine ⟨fun position found => ?_, fun _ => rfl, fun _ _ => rfl⟩
  cases lacks.index.symm.trans found

/-- How parameters answer to a name. -/
structure Addresses (parameters : Parameters) (name : Text) : Prop where
  /-- The mark in front may be left out. -/
  alike : name.head? ≠ some '@' -> parameters.Alike name ('@' :: name)
  least : ∀ index, parameters.indexOf? name = some index ↔
    IsLeast (parameters.positions name) index
  missing : parameters.indexOf? name = none ↔ parameters.positions name = ∅
  found : parameters.find? name =
    (parameters.indexOf? name).bind fun index => parameters.entries[index]?
  assigned : ∀ entry, normalized entry.parameter.name = normalized name ->
    ∃ changed, parameters.set (.name name) entry = .ok changed ∧
      IsAssigned parameters name entry changed
  removed : ∃ changed, parameters.removeAt (.name name) = .ok changed ∧
    IsRemoved parameters name changed

theorem addresses (parameters : Parameters) (name : Text) : parameters.Addresses name := by
  refine ⟨fun unmarked => alike_of_normalized parameters (normalized_marked unmarked), index_iff,
    index_none_iff, List.find?_eq_bind_findIdx?_getElem?, fun entry same => ?_, ?_⟩
  · rcases parameters.name_cases name with ⟨before, found, after, cut⟩ | lacks
    · exact ⟨_, (name_leads cut).set entry, assigned_in_place cut same⟩
    · exact ⟨_, lacks.set entry, assigned_behind lacks same⟩
  · rcases parameters.name_cases name with ⟨before, found, after, cut⟩ | lacks
    · exact ⟨_, (name_leads cut).removeAt, removed_in_place cut⟩
    · exact ⟨_, lacks.removeAt, removed_nothing lacks⟩

/-- Whatever was done to some parameters, a name addresses the first one that answers to it. On the
way each change put what it was given into the place of what it took out, and nothing else was lost,
doubled or moved. -/
theorem names_address_first (start : Parameters) (changes : List Change) (name : Text) :
    (start.changedBy changes).Addresses name ∧
    (∀ change, Splices (start.changedBy changes).entries
      (change.taken (start.changedBy changes)) (change.given (start.changedBy changes))
      (start.changedBy (changes ++ [change])).entries) ∧
    ((start.changedBy changes).entries ++ start.takenBy changes).Perm
      (start.entries ++ start.givenBy changes) := by
  refine ⟨addresses _ name, fun change => ?_, run_balance start changes⟩
  rw [changedBy, changedBy, List.foldl_append, List.foldl_cons, List.foldl_nil]
  exact change.splices _

/-- One name in two spellings, and another one. -/
def spelledTwice : Parameters :=
  ofList [.make (some "a") (.int 1) none none, .make (some "@a") (.int 2) none none,
    .make (some "b") (.int 3) none none]

def shadowed : Parameters :=
  spelledTwice.changedBy [.removeAt (.name "@a")]

def renewed : Entry :=
  ⟨3, .make (some "@a") (.int 4) none none⟩

/-- The first spelling is removed under the second, which is left, and that one is found, replaced
and removed under the first. -/
theorem names_address_first_shadowed :
    shadowed.numbers = [1, 2] ∧ shadowed.Alike "a" "@a" ∧ IsLeast (shadowed.positions "a") 0 ∧
    (∃ changed, shadowed.set (.name "a") renewed = .ok changed ∧
      changed.find? "a" = some renewed ∧ changed.size = 2) ∧
    ∃ changed, shadowed.removeAt (.name "a") = .ok changed ∧ changed.numbers = [2] := by
  obtain ⟨named, -, -⟩ := names_address_first spelledTwice [.removeAt (.name "@a")] "a"
  have first : shadowed.indexOf? "a" = some 0 := by decide
  obtain ⟨assigned, made, isAssigned⟩ := named.assigned renewed (by decide)
  obtain ⟨removed, unmade, isRemoved⟩ := named.removed
  refine ⟨by decide, named.alike (by decide), (named.least 0).mp first,
    ⟨assigned, made, isAssigned.found, isAssigned.size⟩, removed, unmade, ?_⟩
  rw [numbers, isRemoved.present 0 first]
  decide

end Parameters
end SqlPipeline
