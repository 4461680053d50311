import SqlPipeline.Proofs.Batch.Modification
import SqlPipeline.Reply.Affected

/-!
Counts in a reply. The answers to a batch stand where its requests stood, so that the role of a
request tells where its answer is found. An answer holds a count, is silent about it, or cannot be
read.
-/

namespace SqlPipeline

/-- The first cell of an answer is an integer. -/
def Wire.ResponseEntry.Holds (entry : Wire.ResponseEntry) (n : Int) : Prop :=
  ∃ result cell cells rows, entry.result? = some result ∧ result.rows = (cell :: cells) :: rows ∧
    Wire.decodeCell .anything cell = .ok (.int n)

/-- An answer that can be read, but whose first cell is no integer. -/
def Wire.ResponseEntry.IsSilent (entry : Wire.ResponseEntry) : Prop :=
  entry.result? = none ∨ ∃ result, entry.result? = some result ∧ (result.rows = [] ∨
    ∃ value, Wire.decodeCell .anything result.firstCell = .ok value ∧ ∀ n, value ≠ .int n)

namespace Reply

/-- An entry of a reply answers the request of a role. -/
def Answers (reply : Reply) (batch : Batch) (role : Role) (entry : Wire.ResponseEntry) : Prop :=
  ∃ index : Nat, batch.roles[index]? = some role ∧ reply.response.entries[index]? = some entry

/-- Every request of a role is answered by an integer. -/
def Counts (reply : Reply) (batch : Batch) (role : Role) (n : Int) : Prop :=
  ∀ index : Nat, batch.roles[index]? = some role ->
    ∃ entry : Wire.ResponseEntry, reply.response.entries[index]? = some entry ∧ entry.Holds n

/-- What the first cell of an answer with rows is read as. -/
theorem first_integer_eq {entry : Wire.ResponseEntry} {result : Wire.StatementResult}
    (found : entry.result? = some result) (hasRows : result.rows ≠ []) :
    firstInteger (some entry) =
      match Wire.decodeCell .anything result.firstCell with
      | .ok (.int n) => .ok (some n)
      | .ok _ => .ok none
      | .error fault => .error fault := by
  have nonempty : ¬result.rows.isEmpty = true := by simpa using hasRows
  rw [firstInteger, Option.bind_some, found]
  exact if_neg nonempty

theorem first_integer_iff {entry : Wire.ResponseEntry} {n : Int} :
    firstInteger (some entry) = .ok (some n) ↔ entry.Holds n := by
  constructor
  · intro read
    cases found : entry.result? with
    | none => simp [firstInteger, found] at read
    | some result =>
        by_cases empty : result.rows = []
        · simp [firstInteger, found, empty] at read
        · rw [first_integer_eq found empty] at read
          have decoded : Wire.decodeCell .anything result.firstCell = .ok (.int n) := by
            split at read
            · rename_i held decoded
              cases read
              exact decoded
            · cases read
            · cases read
          match shape : result.rows with
          | [] => exact absurd shape empty
          | [] :: rows =>
              rw [Wire.StatementResult.firstCell, shape] at decoded
              cases decoded
          | (cell :: cells) :: rows =>
              rw [Wire.StatementResult.firstCell, shape] at decoded
              exact ⟨result, cell, cells, rows, found, shape, decoded⟩
  · rintro ⟨result, cell, cells, rows, found, shape, decoded⟩
    have first : result.firstCell = cell := by rw [Wire.StatementResult.firstCell, shape]
    rw [first_integer_eq found (by simp [shape]), first, decoded]

theorem first_integer_none_iff {entry : Wire.ResponseEntry} :
    firstInteger (some entry) = .ok none ↔ entry.IsSilent := by
  constructor
  · intro read
    cases found : entry.result? with
    | none => exact .inl found
    | some result =>
        refine .inr ⟨result, found, ?_⟩
        by_cases empty : result.rows = []
        · exact .inl empty
        · rw [first_integer_eq found empty] at read
          split at read
          · cases read
          · rename_i value other decoded
            exact .inr ⟨value, decoded, fun n same => other n same⟩
          · cases read
  · rintro (none | ⟨result, found, empty | ⟨value, decoded, other⟩⟩)
    · simp only [firstInteger, Option.bind_some, none]
    · simp only [firstInteger, Option.bind_some, found, empty, List.isEmpty_nil, if_true]
    · by_cases empty : result.rows = []
      · simp only [firstInteger, Option.bind_some, found, empty, List.isEmpty_nil, if_true]
      · rw [first_integer_eq found empty, decoded]
        cases value with
        | int n => exact absurd rfl (other n)
        | _ => rfl

theorem answer_of_counts {reply : Reply} {batch : Batch} {role : Role} {n : Int} {index : Nat}
    (position : batch.indexOf? role = some index) (counts : reply.Counts batch role n) :
    ∃ entry : Wire.ResponseEntry, reply.answerTo? batch role = some entry ∧ entry.Holds n := by
  obtain ⟨entry, answer, holds⟩ := counts index (Batch.role_of_index position)
  refine ⟨entry, ?_, holds⟩
  rw [answerTo?, position]
  exact answer

theorem answer_to_iff {reply : Reply} {batch : Batch} (distinct : batch.roles.Nodup) {role : Role}
    {entry : Wire.ResponseEntry} :
    reply.answerTo? batch role = some entry ↔ reply.Answers batch role entry := by
  constructor
  · intro found
    obtain ⟨index, position, answer⟩ := Option.bind_eq_some_iff.mp found
    exact ⟨index, Batch.role_of_index position, answer⟩
  · rintro ⟨index, played, answer⟩
    rw [answerTo?, (Batch.index_of_iff distinct).mpr played]
    exact answer

/-- An answer with one cell, an integer. -/
def countEntry (n : Int) : Wire.ResponseEntry :=
  ⟨none, some ⟨"execute", some ⟨[], [[.dict [("type", .text "integer"), ("value", .int n)]]], 0,
    none⟩⟩, none⟩

def ofCounts (counts : List Int) : Reply :=
  ⟨⟨none, none, counts.map countEntry⟩, [], [], 200⟩

theorem count_entry_holds (n : Int) : (countEntry n).Holds n :=
  ⟨_, _, _, _, rfl, rfl, rfl⟩

theorem of_counts_counts {counts : List Int} {batch : Batch} {role : Role} {index : Nat} {n : Int}
    (distinct : batch.roles.Nodup) (position : batch.indexOf? role = some index)
    (counted : counts[index]? = some n) : (ofCounts counts).Counts batch role n := by
  intro played found
  rw [← Batch.index_of_iff distinct, position] at found
  cases found
  refine ⟨countEntry n, ?_, count_entry_holds n⟩
  rw [ofCounts, List.getElem?_map, counted, Option.map_some]

end Reply
end SqlPipeline
