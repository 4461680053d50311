import Mathlib.Data.List.Forall2
import SqlPipeline.Failure

/-!
Runs of steps that may fail. A run succeeds exactly when each of its steps does, and its result is
then that of the last step after the results of those before it.
-/

namespace SqlPipeline

namespace Failure

/-- A failure that is outside of the library's errors. -/
def IsFault : Failure -> Prop
  | fault _ => True
  | _ => False

def IsCanceled : Failure -> Prop
  | canceled _ => True
  | _ => False

instance : DecidablePred IsFault
  | fault _ => .isTrue trivial
  | library _ => .isFalse id
  | canceled _ => .isFalse id

end Failure

namespace Outcome

variable {α β ε : Type}

/-- An outcome that fails in a given way. -/
def FailsBy (P : Failure -> Prop) (outcome : Outcome α) : Prop :=
  ∃ failure, outcome = .error failure ∧ P failure

theorem fails_error {P : Failure -> Prop} {failure : Failure} :
    FailsBy P (.error failure : Outcome α) ↔ P failure := by
  constructor
  · rintro ⟨own, same, holds⟩
    cases same
    exact holds
  · exact fun holds => ⟨failure, rfl, holds⟩

theorem not_fails_ok {P : Failure -> Prop} {x : α} : ¬FailsBy P (.ok x : Outcome α) := by
  rintro ⟨failure, same, -⟩
  cases same

instance decidableFails {P : Failure -> Prop} [DecidablePred P] (outcome : Outcome α) :
    Decidable (FailsBy P outcome) :=
  match outcome with
  | .ok _ => .isFalse not_fails_ok
  | .error failure => decidable_of_iff (P failure) fails_error.symm

instance decidableSucceeds (outcome : Outcome α) : Decidable (∃ value, outcome = .ok value) :=
  match outcome with
  | .ok value => .isTrue ⟨value, rfl⟩
  | .error _ => .isFalse nofun

/-- A run fails by its first step, or by what follows the result of that. -/
theorem fails_bind {P : Failure -> Prop} {x : Outcome α} {next : α -> Outcome β} :
    FailsBy P (x >>= next) ↔ FailsBy P x ∨ ∃ value, x = .ok value ∧ FailsBy P (next value) := by
  cases x with
  | ok value =>
      constructor
      · exact fun failed => .inr ⟨value, rfl, failed⟩
      · rintro (failed | ⟨own, same, failed⟩)
        · exact absurd failed not_fails_ok
        · cases same
          exact failed
  | error failure =>
      constructor
      · rintro ⟨own, same, holds⟩
        cases same
        exact .inl (fails_error.mpr holds)
      · rintro (failed | ⟨own, same, -⟩)
        · exact fails_error.mpr (fails_error.mp failed)
        · cases same

theorem fails_map {P : Failure -> Prop} {x : Outcome α} {f : α -> β} :
    FailsBy P (x.map f) ↔ FailsBy P x := by
  cases x with
  | ok value => exact iff_of_false not_fails_ok not_fails_ok
  | error failure => exact fails_error.trans fails_error.symm

theorem ok_bind (value : α) (next : α -> Except ε β) :
    (.ok value : Except ε α) >>= next = next value :=
  rfl

theorem map_eq_error {x : Except ε α} {f : α -> β} {failure : ε} :
    x.map f = .error failure ↔ x = .error failure := by
  cases x with
  | ok value => simp [Except.map]
  | error own => simp [Except.map]

theorem bind_eq_ok {x : Except ε α} {next : α -> Except ε β} {result : β} :
    x >>= next = .ok result ↔ ∃ value, x = .ok value ∧ next value = .ok result := by
  cases x with
  | error failure => simp [bind, Except.bind]
  | ok value => simp [bind, Except.bind]

theorem failed_iff {x : Except ε α} :
    (∃ failure, x = .error failure) ↔ ¬∃ value, x = .ok value := by
  cases x with
  | ok value => simp
  | error failure => simp

theorem lift_eq_ok {x : Except Fault α} {value : α} : Fault.lift x = .ok value ↔ x = .ok value := by
  cases x with
  | error fault => simp [Fault.lift]
  | ok found => simp [Fault.lift]

theorem map_steps_ok {step : α -> Except ε β} {result : α -> β} {items : List α}
    (each : ∀ item ∈ items, step item = .ok (result item)) :
    items.mapM step = .ok (items.map result) := by
  induction items with
  | nil => rfl
  | cons item items ih =>
      have later := ih fun next member => each next (by simp [member])
      rw [List.mapM_cons, each item (by simp), later]
      rfl

/-- Steps along a list succeed exactly when each item has its own result. -/
theorem map_steps_iff {step : α -> Except ε β} {items : List α} {results : List β} :
    items.mapM step = .ok results ↔
      List.Forall₂ (fun item result => step item = .ok result) items results := by
  induction items generalizing results with
  | nil =>
      rw [List.mapM_nil, List.forall₂_nil_left_iff]
      exact ⟨fun same => (Except.ok.inj same).symm, fun empty => congrArg Except.ok empty.symm⟩
  | cons item items ih =>
      rw [List.mapM_cons, List.forall₂_cons_left_iff]
      constructor
      · intro run
        obtain ⟨first, found, rest⟩ := bind_eq_ok.mp run
        obtain ⟨later, ran, same⟩ := bind_eq_ok.mp rest
        cases same
        exact ⟨first, later, found, ih.mp ran, rfl⟩
      · rintro ⟨first, later, found, ran, rfl⟩
        rw [found, ok_bind, ih.mpr ran]
        rfl

theorem lift_not_canceled (x : Except Fault α) : ¬FailsBy Failure.IsCanceled (Fault.lift x) := by
  cases x with
  | ok value => exact not_fails_ok
  | error fault =>
      rw [Fault.lift, fails_error]
      exact id

/-- The failure of a run that fails. -/
def failure? : Except ε α -> Option ε
  | .ok _ => none
  | .error failure => some failure

theorem failure_of_result (x : Except ε α) (f : α -> β) :
    failure? (do let value ← x; .ok (f value)) = failure? x := by
  cases x with
  | ok value => rfl
  | error failure => rfl

/-- Steps along a list fail by the first of them that fails. -/
theorem failure_of_steps (step : α -> Except ε β) (items : List α) :
    failure? (items.mapM step) = items.findSome? fun item => failure? (step item) := by
  induction items with
  | nil => rfl
  | cons item later ih =>
      rw [List.mapM_cons, List.findSome?_cons]
      cases step item with
      | error failure => rfl
      | ok result => exact (failure_of_result _ _).trans ih

theorem fails_iff {P : Failure -> Prop} {x : Outcome α} :
    FailsBy P x ↔ ∃ failure, failure? x = some failure ∧ P failure := by
  cases x with
  | ok value => exact iff_of_false not_fails_ok nofun
  | error failure =>
      rw [fails_error]
      constructor
      · exact fun holds => ⟨failure, rfl, holds⟩
      · rintro ⟨own, same, holds⟩
        cases same
        exact holds

theorem map_steps_length {step : α -> Except ε β} {items : List α} {results : List β}
    (run : items.mapM step = .ok results) : results.length = items.length :=
  (map_steps_iff.mp run).length_eq.symm

/-- The result of a step stands where its item stood. -/
theorem map_steps_at {step : α -> Except ε β} {items : List α} {results : List β}
    (run : items.mapM step = .ok results) {index : Nat} {item : α}
    (position : items[index]? = some item) :
    ∃ result, results[index]? = some result ∧ step item = .ok result := by
  obtain ⟨size, each⟩ := List.forall₂_iff_get.mp (map_steps_iff.mp run)
  obtain ⟨inside, rfl⟩ := List.getElem?_eq_some_iff.mp position
  exact ⟨results[index], List.getElem?_eq_getElem _, each index inside (size ▸ inside)⟩

theorem map_steps_each {step : α -> Except ε β} {items : List α} {results : List β}
    (run : items.mapM step = .ok results) : ∀ item ∈ items, ∃ result, step item = .ok result := by
  intro item member
  obtain ⟨index, inside, rfl⟩ := List.mem_iff_getElem.mp member
  obtain ⟨result, -, found⟩ := map_steps_at run (List.getElem?_eq_getElem inside)
  exact ⟨result, found⟩

/-- A result comes of the step of some item. -/
theorem map_steps_source {step : α -> Except ε β} {items : List α} {results : List β} {result : β}
    (run : items.mapM step = .ok results) (member : result ∈ results) :
    ∃ item ∈ items, step item = .ok result := by
  obtain ⟨index, inside, rfl⟩ := List.mem_iff_getElem.mp member
  have within : index < items.length := map_steps_length run ▸ inside
  obtain ⟨found, stands, made⟩ := map_steps_at run (List.getElem?_eq_getElem within)
  rw [List.getElem?_eq_getElem inside] at stands
  cases stands
  exact ⟨_, List.getElem_mem within, made⟩

theorem map_steps_total {step : α -> Except ε β} {items : List α}
    (each : ∀ item ∈ items, ∃ result, step item = .ok result) :
    ∃ results, items.mapM step = .ok results := by
  induction items with
  | nil => exact ⟨[], rfl⟩
  | cons item items ih =>
      obtain ⟨first, found⟩ := each item List.mem_cons_self
      obtain ⟨later, ran⟩ := ih fun next member => each next (List.mem_cons_of_mem item member)
      exact ⟨first :: later, map_steps_iff.mpr (.cons found (map_steps_iff.mp ran))⟩

/-- Steps along a list fail by the first item whose step fails. -/
theorem map_steps_fail {step : α -> Except ε β} {earlier : List α} {item : α} {failure : ε}
    (each : ∀ x ∈ earlier, ∃ result, step x = .ok result) (failed : step item = .error failure)
    (later : List α) : (earlier ++ item :: later).mapM step = .error failure := by
  induction earlier with
  | nil =>
      rw [List.nil_append, List.mapM_cons, failed]
      rfl
  | cons first earlier ih =>
      obtain ⟨result, found⟩ := each first List.mem_cons_self
      rw [List.cons_append, List.mapM_cons, found, ok_bind,
        ih fun next member => each next (List.mem_cons_of_mem first member)]
      rfl

/-- Steps along a list that fail do so at some item, those before it having their results. -/
theorem map_steps_first {step : α -> Except ε β} {items : List α} {failure : ε}
    (failed : items.mapM step = .error failure) :
    ∃ earlier item later results, items = earlier ++ item :: later ∧
      earlier.mapM step = .ok results ∧ step item = .error failure := by
  induction items with
  | nil => cases failed
  | cons item items ih =>
      rw [List.mapM_cons] at failed
      cases found : step item with
      | error own =>
          rw [found] at failed
          cases failed
          exact ⟨[], item, items, [], rfl, rfl, found⟩
      | ok result =>
          rw [found, ok_bind] at failed
          cases ran : items.mapM step with
          | ok results =>
              rw [ran] at failed
              cases failed
          | error own =>
              rw [ran] at failed
              cases failed
              obtain ⟨earlier, behind, later, results, rfl, passed, raised⟩ := ih ran
              refine ⟨item :: earlier, behind, later, result :: results, rfl, ?_, raised⟩
              exact map_steps_iff.mpr (.cons found (map_steps_iff.mp passed))

theorem map_steps_error_iff {step : α -> Except ε β} {items : List α} {failure : ε} :
    items.mapM step = .error failure ↔
      ∃ earlier item later, items = earlier ++ item :: later ∧
        (∀ other ∈ earlier, ∃ result, step other = .ok result) ∧ step item = .error failure := by
  constructor
  · intro failed
    obtain ⟨earlier, item, later, results, cut, passed, raised⟩ := map_steps_first failed
    exact ⟨earlier, item, later, cut, map_steps_each passed, raised⟩
  · rintro ⟨earlier, item, later, rfl, passed, raised⟩
    exact map_steps_fail passed raised later

end Outcome
end SqlPipeline
