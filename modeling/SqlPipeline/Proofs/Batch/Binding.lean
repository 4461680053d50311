import SqlPipeline.Batch.Building
import SqlPipeline.Proofs.Outcome

/-!
How names are bound. Each name of a statement stands for one argument, at the position that its
number says, and that argument is settled by the name and the parameters alone. A check of a row
therefore sends for its key what the statement itself sends for that name.
-/

namespace SqlPipeline
namespace Batch

variable {sql name : Text} {parameters : Parameters} {sent : Wire.Argument}
  {statement : Wire.Statement}

/-- A name stands for what the first parameter of that name is sent as. -/
def Binds (parameters : Parameters) (name : Text) (sent : Wire.Argument) : Prop :=
  ∃ entry, parameters.find? name = some entry ∧ entry.parameter.encode = .ok sent

theorem argument_iff : argument sql parameters name = .ok sent ↔ Binds parameters name sent := by
  rw [argument, Binds]
  cases parameters.find? name with
  | none => simp
  | some entry => simp

theorem binds_unique {other : Wire.Argument} (first : Binds parameters name sent)
    (second : Binds parameters name other) : sent = other := by
  obtain ⟨entry, found, encoded⟩ := first
  obtain ⟨again, foundAgain, encodedAgain⟩ := second
  cases found.symm.trans foundAgain
  exact Except.ok.inj (encoded.symm.trans encodedAgain)

theorem bind_iff :
    bind sql parameters = .ok statement ↔
      statement.sql = (Sql.number sql).sql ∧
        List.Forall₂ (Binds parameters) (Sql.number sql).names statement.arguments := by
  have each : (fun name sent => argument sql parameters name = .ok sent) = Binds parameters := by
    funext name sent
    exact propext argument_iff
  rw [bind, Outcome.bind_eq_ok]
  constructor
  · rintro ⟨arguments, read, made⟩
    cases made
    rw [Outcome.map_steps_iff, each] at read
    exact ⟨rfl, read⟩
  · rintro ⟨text, bound⟩
    rw [← each] at bound
    refine ⟨statement.arguments, Outcome.map_steps_iff.mpr bound, ?_⟩
    rw [← text]

theorem bind_total (bound : ∀ name ∈ (Sql.number sql).names, ∃ sent, Binds parameters name sent) :
    ∃ statement, bind sql parameters = .ok statement := by
  have each : ∀ name ∈ (Sql.number sql).names, ∃ sent, argument sql parameters name = .ok sent := by
    intro name member
    obtain ⟨sent, binds⟩ := bound name member
    exact ⟨sent, argument_iff.mpr binds⟩
  obtain ⟨arguments, read⟩ := Outcome.map_steps_total each
  exact ⟨_, Outcome.bind_eq_ok.mpr ⟨arguments, read, rfl⟩⟩

/-- A name of a statement has its argument at the position of its number. -/
theorem argument_at (bound : bind sql parameters = .ok statement)
    (member : name ∈ (Sql.number sql).names) (binds : Binds parameters name sent) :
    statement.arguments[(Sql.number sql).names.idxOf name]? = some sent := by
  obtain ⟨_, each⟩ := bind_iff.mp bound
  obtain ⟨length, pairs⟩ := List.forall₂_iff_get.mp each
  have inside : (Sql.number sql).names.idxOf name < (Sql.number sql).names.length :=
    List.idxOf_lt_length_of_mem member
  have paired := pairs _ inside (length ▸ inside)
  rw [List.get_eq_getElem, List.get_eq_getElem, List.getElem_idxOf] at paired
  rw [List.getElem?_eq_getElem (length ▸ inside), binds_unique paired binds]

/-- The requests of a role, in order. -/
def requestsOf (batch : Batch) (role : Role) : List Wire.Request :=
  (batch.entries.filter fun entry => entry.role = role).map BatchEntry.request

/-- What a keyed modification sends in each role. -/
theorem requests_of_keyed {operation : Sql.Operation} {main : Wire.Statement} {table : Text}
    {key version : Value} (role : Role) :
    requestsOf ⟨sql, keyedEntries operation (execute main .main operation) table sent, key, version⟩
        role =
      match role with
      | .verify => [.execute ⟨countText table, [sent]⟩]
      | .main => [.execute main]
      | .changes => [.execute ⟨changesText, []⟩]
      | .refresh => if operation = .update then [.execute ⟨rowText table, [sent]⟩] else []
      | .close => [.close] := by
  by_cases update : operation = .update
  · rw [keyedEntries, refreshEntries, if_pos update]
    cases role with
    | refresh => rw [if_pos update]; rfl
    | _ => rfl
  · rw [keyedEntries, refreshEntries, if_neg update]
    cases role with
    | refresh => rw [if_neg update]; rfl
    | _ => rfl

end Batch
end SqlPipeline
