import SqlPipeline.Parameter.Basic

/-!
The life of a parameter. What is set explicitly stays until the reset, and the type that is not set
is that of the current value. A size that is not set is that of the last text or bytes which the
parameter held, so that it lags behind when a value of another kind is assigned to it.
-/

namespace SqlPipeline
namespace Parameter

/-- A parameter that only holds a value. -/
def fresh (value : Value) : Parameter :=
  make none value none none

theorem unsized_size {value : Value} (unsized : value.isSized = false) : value.size = 0 := by
  cases value with
  | text s => cases unsized
  | binary holder bytes =>
      cases holder with
      | window => rfl
      | fixed => cases unsized
      | growable => cases unsized
  | _ => rfl

theorem fresh_size (value : Value) : (fresh value).size = value.size := by
  cases sized : value.isSized with
  | true => simp [fresh, make, setValue, sized]
  | false => simp [fresh, make, setValue, sized, unsized_size sized]

/-- A reset forgets all but the name and the value. -/
theorem reset_is_made_anew (parameter : Parameter) :
    parameter.reset = make (some parameter.name) parameter.value none none := by
  have size : (parameter.reset.size : Int) = (fresh parameter.value).size :=
    (fresh_size parameter.value).symm
  exact congrArg (Parameter.mk parameter.name parameter.value none · false) size

/-- What was done to a parameter, from its making on. -/
inductive History where
  | made (name? : Option Text) (value : Value) (type? : Option DbType) (size? : Option Int)
  | valued (earlier : History) (value : Value)
  | typed (earlier : History) (name : Text)
  | sized (earlier : History) (size : Int)
  | reset (earlier : History)

namespace History

/-- The parameter with this history. A type that is not known is refused and changes nothing. -/
def parameter : History -> Parameter
  | made name? value type? size? => make name? value type? size?
  | valued earlier value => earlier.parameter.setValue value
  | typed earlier name =>
      match earlier.parameter.setTypeName name with
      | .ok changed => changed
      | .error _ => earlier.parameter
  | sized earlier size => earlier.parameter.setSize size
  | reset earlier => earlier.parameter.reset

/-- The value that was assigned last. -/
def value : History -> Value
  | made _ value _ _ => value
  | valued _ value => value
  | typed earlier _ => earlier.value
  | sized earlier _ => earlier.value
  | reset earlier => earlier.value

/-- The type that was set last since the making or the last reset. -/
def type? : History -> Option DbType
  | made _ _ type? _ => type?
  | valued earlier _ => earlier.type?
  | typed earlier name => (DbType.ofName? name).or earlier.type?
  | sized earlier _ => earlier.type?
  | reset _ => none

/-- The size that was set last since the making or the last reset. -/
def size? : History -> Option Int
  | made _ _ _ size? => size?
  | valued earlier _ => earlier.size?
  | typed earlier _ => earlier.size?
  | sized _ size => some size
  | reset _ => none

/-- The values that were held since the making or the last reset, the current one first. -/
def held : History -> List Value
  | made _ value _ _ => [value]
  | valued earlier value => value :: earlier.held
  | typed earlier _ => earlier.held
  | sized earlier _ => earlier.held
  | reset earlier => [earlier.value]

/-- The size of the first text or bytes among these values. -/
def firstSize (values : List Value) : Nat :=
  ((values.find? Value.isSized).map Value.size).getD 0

/-- The current value has no size, and text or bytes that are not empty were the last to be held
before it. -/
def Lags (history : History) : Prop :=
  history.value.isSized = false ∧ firstSize history.held ≠ 0

theorem first_size_of_sized {value : Value} (sized : value.isSized = true) (others : List Value) :
    firstSize (value :: others) = value.size := by
  rw [firstSize, List.find?_cons_of_pos sized]
  rfl

theorem first_size_of_unsized {value : Value} (unsized : value.isSized = false)
    (others : List Value) : firstSize (value :: others) = firstSize others := by
  rw [firstSize, List.find?_cons_of_neg (by simp [unsized])]
  rfl

theorem first_size_alone (value : Value) : firstSize [value] = value.size := by
  cases sized : value.isSized with
  | true => exact first_size_of_sized sized []
  | false => exact (first_size_of_unsized sized []).trans (unsized_size sized).symm

/-- The current value is the first of those that were held. -/
theorem held_current (history : History) : ∃ before, history.held = history.value :: before := by
  induction history with
  | made name? value type? size? => exact ⟨[], rfl⟩
  | valued earlier value => exact ⟨earlier.held, rfl⟩
  | typed earlier name before => exact before
  | sized earlier size before => exact before
  | reset earlier => exact ⟨[], rfl⟩

/-- A parameter keeps what its history tells. -/
structure Keeps (history : History) (parameter : Parameter) : Prop where
  value : parameter.value = history.value
  type : parameter.type? = history.type?
  size : parameter.size = history.size?.getD (firstSize history.held)
  fixed : parameter.sizeIsSet = history.size?.isSome

namespace Keeps

variable {history : History} {parameter : Parameter}

theorem make (name? : Option Text) (value : Value) (type? : Option DbType) (size? : Option Int) :
    Keeps (made name? value type? size?) (Parameter.make name? value type? size?) := by
  cases size? with
  | some size => exact ⟨rfl, rfl, rfl, rfl⟩
  | none =>
      have size : (Parameter.make name? value type? none).size = (firstSize [value] : Nat) := by
        rw [first_size_alone]
        exact fresh_size value
      exact ⟨rfl, rfl, size, rfl⟩

/-- Text and bytes bring their size with them, as long as none was set; other values bring none. -/
theorem set_value (keeps : Keeps history parameter) (value : Value) :
    Keeps (history.valued value) (parameter.setValue value) := by
  refine ⟨rfl, keeps.type, ?_, keeps.fixed⟩
  have follows : (parameter.setValue value).size
      = if !history.size?.isSome && value.isSized then (value.size : Int)
        else history.size?.getD (firstSize history.held) := by
    rw [← keeps.fixed, ← keeps.size]
    rfl
  rw [follows]
  show _ = history.size?.getD (firstSize (value :: history.held))
  cases history.size? with
  | some size => rfl
  | none =>
      cases sized : value.isSized with
      | true => rw [first_size_of_sized sized]; rfl
      | false => rw [first_size_of_unsized sized]; rfl

theorem set_type (keeps : Keeps history parameter) {name : Text} {type : DbType}
    (known : DbType.ofName? name = some type) :
    Keeps (history.typed name) (parameter.setType type) := by
  have latest : some type = (History.typed history name).type? := by
    rw [History.type?, known]
    rfl
  exact ⟨keeps.value, latest, keeps.size, keeps.fixed⟩

theorem refuse_type (keeps : Keeps history parameter) {name : Text}
    (unknown : DbType.ofName? name = none) : Keeps (history.typed name) parameter := by
  have latest : history.type? = (History.typed history name).type? := by
    rw [History.type?, unknown]
    rfl
  exact ⟨keeps.value, keeps.type.trans latest, keeps.size, keeps.fixed⟩

theorem set_size (keeps : Keeps history parameter) (size : Int) :
    Keeps (history.sized size) (parameter.setSize size) :=
  ⟨keeps.value, keeps.type, rfl, rfl⟩

theorem reset (keeps : Keeps history parameter) : Keeps history.reset parameter.reset := by
  have size : (parameter.value.size : Int) = (firstSize [history.value] : Nat) := by
    rw [first_size_alone, keeps.value]
  exact ⟨keeps.value, rfl, size, rfl⟩

end Keeps

/-- Every parameter keeps what its history tells. -/
theorem keeps (history : History) : Keeps history history.parameter := by
  induction history with
  | made name? value type? size? => exact .make name? value type? size?
  | valued earlier value kept => exact kept.set_value value
  | typed earlier name kept =>
      unfold parameter setTypeName
      cases known : DbType.ofName? name with
      | some type => exact kept.set_type known
      | none => exact kept.refuse_type known
  | sized earlier size kept => exact kept.set_size size
  | reset earlier kept => exact kept.reset

/-- What the parameter last held as text or bytes has the size of its current value, unless it
lags. -/
theorem first_size_iff (history : History) :
    firstSize history.held = history.value.size ↔ ¬history.Lags := by
  cases sized : history.value.isSized with
  | true =>
      obtain ⟨before, current⟩ := history.held_current
      simp [Lags, sized, current, first_size_of_sized sized before]
  | false => simp [Lags, sized, unsized_size sized]

/-- The derived fields of a parameter, whatever was done to it. The type and the size that are set
explicitly are returned; a type that is not set is inferred from the current value; a size that is
not set is that of a fresh parameter with this value, unless it lags. -/
theorem derived_outcome (history : History) :
    history.parameter.value = history.value ∧
    (∀ type, history.type? = some type -> history.parameter.type = type) ∧
    (history.type? = none -> history.parameter.type = DbType.infer history.value) ∧
    (∀ size, history.size? = some size -> history.parameter.size = size) ∧
    (history.size? = none ->
      history.parameter.size = firstSize history.held ∧
      (history.parameter.size = (fresh history.value).size ↔ ¬history.Lags)) ∧
    (fresh history.value).size = history.value.size ∧
    history.reset.parameter = make (some history.parameter.name) history.value none none := by
  have kept := history.keeps
  refine ⟨kept.value, fun type set => ?_, fun unset => ?_, fun size set => ?_, fun unset => ?_,
    fresh_size history.value, ?_⟩
  · rw [Parameter.type, kept.type, set]
    rfl
  · rw [Parameter.type, kept.type, unset, kept.value]
    rfl
  · rw [kept.size, set]
    rfl
  · have size : history.parameter.size = firstSize history.held := by
      rw [kept.size, unset]
      rfl
    refine ⟨size, ?_⟩
    rw [size, fresh_size, ← first_size_iff]
    exact Int.ofNat_inj
  · rw [← kept.value]
    exact reset_is_made_anew history.parameter

/-- A text of three characters, and then a number. -/
def numberAfterText : History :=
  (made (some "@p") (.text "abc") none none).valued (.int 5)

/-- The number is left with the size of the text, which a reset takes away. -/
theorem derived_outcome_number :
    numberAfterText.size? = none ∧ numberAfterText.Lags ∧
    numberAfterText.parameter.size = 3 ∧ (fresh numberAfterText.value).size = 0 ∧
    numberAfterText.parameter.size ≠ (fresh numberAfterText.value).size ∧
    numberAfterText.reset.parameter.size = 0 := by
  obtain ⟨-, -, -, -, follows, alone, anew⟩ := derived_outcome numberAfterText
  obtain ⟨size, upToDate⟩ := follows rfl
  have lags : numberAfterText.Lags := ⟨rfl, by decide⟩
  exact ⟨rfl, lags, size, alone, fun same => upToDate.mp same lags,
    congrArg Parameter.size anew⟩

end History
end Parameter
end SqlPipeline
