import SqlPipeline.Proofs.Batch.Binding
import SqlPipeline.Proofs.Sql.Reversal

/-!
Which value each placeholder gets. A placeholder stands for the first parameter of its name, with or
without the mark in front, and its position is the place of that parameter's argument among the
arguments. Binding fails by the first name, in the order of appearance, that has no parameter or one
that cannot be encoded.
-/

namespace SqlPipeline

/-- A parameter goes by a name that is given with its mark. -/
def Parameter.IsCalled (parameter : Parameter) (name : Text) : Prop :=
  parameter.name = name ∨ '@' :: parameter.name = name

/-- The first of the parameters of a name. -/
def Parameters.IsFirst (parameters : Parameters) (name : Text) (entry : Entry) : Prop :=
  ∃ earlier later, parameters.entries = earlier ++ entry :: later ∧
    entry.parameter.IsCalled name ∧ ∀ other ∈ earlier, ¬other.parameter.IsCalled name

namespace Parameters

variable {parameters : Parameters} {name : Text} {entry : Entry}

/-- A word has no mark in front, so that a placeholder has two spellings only. -/
theorem answers_iff (named : Sql.IsPlaceholder name) :
    answersTo name entry = true ↔ entry.parameter.IsCalled name := by
  obtain ⟨word, rfl, nonempty, ascii⟩ := named
  have own : Parameter.normalized ('@' :: word) = '@' :: word := if_pos rfl
  rw [answersTo, decide_eq_true_eq, own, Parameter.IsCalled, Parameter.normalized]
  by_cases marked : entry.parameter.name.head? = some '@'
  · have other : '@' :: entry.parameter.name ≠ '@' :: word := by
      intro same
      have head : '@' ∈ word := by
        rw [← List.cons.inj same |>.2]
        exact List.mem_of_mem_head? marked
      exact absurd (ascii '@' head) (by decide)
    rw [if_pos marked]
    exact (or_iff_left other).symm
  · have other : entry.parameter.name ≠ '@' :: word := by
      intro same
      apply marked
      rw [same]
      rfl
    rw [if_neg marked]
    exact (or_iff_right other).symm

theorem find_first_iff (named : Sql.IsPlaceholder name) :
    parameters.find? name = some entry ↔ parameters.IsFirst name entry := by
  rw [find?, List.find?_eq_some_iff_append, answers_iff named, IsFirst]
  constructor
  · rintro ⟨called, earlier, later, stands, others⟩
    refine ⟨earlier, later, stands, called, fun other member callsOther => ?_⟩
    have refused := others other member
    rw [(answers_iff named).mpr callsOther] at refused
    cases refused
  · rintro ⟨earlier, later, stands, called, others⟩
    refine ⟨called, earlier, later, stands, fun other member => ?_⟩
    rw [Bool.not_eq_true', ← Bool.not_eq_true, answers_iff named]
    exact others other member

theorem find_none_iff (named : Sql.IsPlaceholder name) :
    parameters.find? name = none ↔ ∀ entry ∈ parameters.entries, ¬entry.parameter.IsCalled name := by
  rw [find?, List.find?_eq_none]
  simp only [answers_iff named]

end Parameters

namespace Sql

variable {names : List Text} {quoting : Quoting} {s t : Text}

/-- There is one text only that a text is renumbered to. -/
theorem Renumbered.written (renumbered : Renumbered names quoting s t) (distinct : names.Nodup) :
    t = (fragmentsFrom quoting s).flatMap (positional names) := by
  induction renumbered with
  | done quoting => rw [fragmentsFrom, List.flatMap_nil]
  | @name placeholder rest written position named stop listed later ih =>
      obtain ⟨word, rfl, nonempty, ascii⟩ := named
      obtain ⟨inside, own⟩ := List.getElem?_eq_some_iff.mp listed
      have place : names.idxOf ('@' :: word) = position := by
        rw [← own]
        exact distinct.idxOf_getElem position inside
      rw [List.cons_append, fragments_of_name nonempty ascii rest stop, List.flatMap_cons, ← ih,
        positional, place]
      rfl
  | @other quoting c rest written plain later ih =>
      have unnamed : ¬(c = '@' ∧ quoting = .bare ∧ rest.takeWhile Text.isAsciiWordChar ≠ []) := by
        rintro ⟨mark, bare, word⟩
        exact word (Text.take_while_nil_iff.mpr (plain mark bare))
      rw [fragmentsFrom, if_neg unnamed, List.flatMap_cons, ← ih]
      rfl

/-- A text is renumbered by its own names to the numbered text and to no other one. -/
theorem renumbered_iff {sql written : Text} :
    Renumbered (number sql).names .bare sql written ↔ written = (number sql).sql := by
  constructor
  · exact fun renumbered => renumbered.written (erased_distinct _)
  · rintro rfl
    exact .of_fragments .bare sql fun name member => mem_names_iff.mpr member

end Sql

namespace Batch

variable {sql name : Text} {parameters : Parameters} {sent : Wire.Argument} {failure : Failure}

/-- What is sent for a name: its first parameter, encoded. -/
def Attaches (parameters : Parameters) (name : Text) (sent : Wire.Argument) : Prop :=
  ∃ entry, parameters.IsFirst name entry ∧ entry.parameter.encode = .ok sent

/-- Why nothing is sent for a name of a text. -/
inductive Refuses (sql : Text) (parameters : Parameters) (name : Text) : Failure -> Prop where
  | missing (absent : ∀ entry ∈ parameters.entries, ¬entry.parameter.IsCalled name) :
      Refuses sql parameters name (.library (.ofSql (.parameterMissing name) sql))
  | unencodable {entry : Entry} {failure : Failure} (first : parameters.IsFirst name entry)
      (failed : entry.parameter.encode = .error failure) : Refuses sql parameters name failure

theorem attaches_iff (named : Sql.IsPlaceholder name) :
    Attaches parameters name sent ↔ Binds parameters name sent := by
  simp only [Attaches, Binds, Parameters.find_first_iff named]

theorem attached_iff {names : List Text} {sents : List Wire.Argument}
    (named : ∀ name ∈ names, Sql.IsPlaceholder name) :
    List.Forall₂ (Attaches parameters) names sents ↔ List.Forall₂ (Binds parameters) names sents := by
  induction names generalizing sents with
  | nil => rw [List.forall₂_nil_left_iff, List.forall₂_nil_left_iff]
  | cons name names ih =>
      obtain ⟨own, others⟩ := List.forall_mem_cons.mp named
      rw [List.forall₂_cons_left_iff, List.forall₂_cons_left_iff]
      simp only [attaches_iff own, ih others]

theorem refuses_iff (named : Sql.IsPlaceholder name) :
    argument sql parameters name = .error failure ↔ Refuses sql parameters name failure := by
  rw [argument]
  cases found : parameters.find? name with
  | none =>
      have absent := (Parameters.find_none_iff named).mp found
      constructor
      · intro raised
        cases raised
        exact .missing absent
      · intro refuses
        cases refuses with
        | missing => rfl
        | @unencodable entry _ first =>
            rw [(Parameters.find_first_iff named).mpr first] at found
            cases found
  | some entry =>
      have first := (Parameters.find_first_iff named).mp found
      constructor
      · exact fun failed => .unencodable first failed
      · intro refuses
        cases refuses with
        | missing absent =>
            rw [(Parameters.find_none_iff named).mpr absent] at found
            cases found
        | @unencodable other _ own failed =>
            rw [(Parameters.find_first_iff named).mpr own] at found
            cases found
            exact failed

theorem bind_eq (sql : Text) (parameters : Parameters) :
    bind sql parameters = ((Sql.number sql).names.mapM (argument sql parameters)).map
      (Wire.Statement.mk (Sql.number sql).sql) := by
  rw [bind]
  cases (Sql.number sql).names.mapM (argument sql parameters) <;> rfl

/-- A text is bound exactly to its own renumbering, by its distinct names in the order of their first
appearance, together with one argument for each of these names: a name at some position has its
argument at the same position, and that is its first parameter, encoded. Binding fails exactly by the
first of the names that nothing is sent for, either because there is no parameter of that name, which
is told together with the text, or because its first parameter cannot be encoded. -/
theorem bind_attaches (sql : Text) (parameters : Parameters) :
    (∀ statement, bind sql parameters = .ok statement ↔
      Sql.Renumbered (Sql.appearances .bare sql).eraseDups .bare sql statement.sql ∧
        List.Forall₂ (Attaches parameters) (Sql.appearances .bare sql).eraseDups
          statement.arguments) ∧
    ∀ failure, bind sql parameters = .error failure ↔
      ∃ earlier name later, (Sql.appearances .bare sql).eraseDups = earlier ++ name :: later ∧
        (∀ other ∈ earlier, ∃ sent, Attaches parameters other sent) ∧
          Refuses sql parameters name failure := by
  rw [← Sql.names_eq]
  have named : ∀ name ∈ (Sql.number sql).names, Sql.IsPlaceholder name :=
    fun name member => Sql.placeholder_of_fragment .bare (Sql.mem_names_iff.mp member)
  constructor
  · intro statement
    rw [bind_iff, Sql.renumbered_iff, attached_iff named]
  · intro failure
    rw [bind_eq, Outcome.map_eq_error, Outcome.map_steps_error_iff]
    constructor
    · rintro ⟨earlier, name, later, cut, passed, failed⟩
      rw [cut] at named
      refine ⟨earlier, name, later, cut, fun other member => ?_, ?_⟩
      · obtain ⟨sent, made⟩ := passed other member
        exact ⟨sent, (attaches_iff (named other (by simp [member]))).mpr (argument_iff.mp made)⟩
      · exact (refuses_iff (named name (by simp))).mp failed
    · rintro ⟨earlier, name, later, cut, passed, refuses⟩
      rw [cut] at named
      refine ⟨earlier, name, later, cut, fun other member => ?_, ?_⟩
      · obtain ⟨sent, attaches⟩ := passed other member
        exact ⟨sent, argument_iff.mpr ((attaches_iff (named other (by simp [member]))).mp attaches)⟩
      · exact (refuses_iff (named name (by simp))).mpr refuses

end Batch
end SqlPipeline
