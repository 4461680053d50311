import SqlPipeline.Proofs.Text.Cut
import SqlPipeline.Sql.Statement

/-!
What a statement is classified as. The keywords are looked for in one order under both policies, so
that an insertion is taken for something else only when it mentions UPDATE.
-/

namespace SqlPipeline

namespace Sql

/-- The first keyword that is found decides, in the order of the search. -/
theorem searched_find (found : Operation -> Bool) :
    (Operation.searched.find? found).getD .other =
      if found .update then .update
      else if found .insert then .insert
      else if found .delete then .delete
      else .other := by
  rw [Operation.searched, List.find?_cons, List.find?_cons, List.find?_cons, List.find?_nil]
  cases found .update with
  | true => rfl
  | false =>
      cases found .insert with
      | true => rfl
      | false => cases found .delete <;> rfl

theorem classify_eq (policy : Policy) (sql : Text) :
    classify policy sql =
      if policy.finds "UPDATE" (Text.upper (Text.trimStart sql)) then .update
      else if policy.finds "INSERT" (Text.upper (Text.trimStart sql)) then .insert
      else if policy.finds "DELETE" (Text.upper (Text.trimStart sql)) then .delete
      else .other :=
  searched_find _

/-- A text mentions UPDATE anywhere, in any letter case. -/
def MentionsUpdate (sql : Text) : Prop :=
  Text.contains "UPDATE" (Text.upper (Text.trimStart sql)) = true

theorem starts_of_insertion {sql : Text} (insertion : classify .atStart sql = .insert) :
    (Text.upper (Text.trimStart sql)).startsWith "INSERT" = true := by
  rw [classify_eq] at insertion
  by_cases update : Policy.atStart.finds "UPDATE" (Text.upper (Text.trimStart sql)) = true
  · rw [if_pos update] at insertion
    cases insertion
  · rw [if_neg update] at insertion
    by_cases insert : Policy.atStart.finds "INSERT" (Text.upper (Text.trimStart sql)) = true
    · exact insert
    · rw [if_neg insert] at insertion
      split at insertion <;> cases insertion

theorem classify_mentioning {sql : Text} (mentions : MentionsUpdate sql) :
    classify .anywhere sql = .update := by
  rw [classify_eq]
  exact if_pos mentions

theorem classify_insertion {sql : Text} (insertion : classify .atStart sql = .insert)
    (silent : ¬MentionsUpdate sql) : classify .anywhere sql = .insert := by
  have insert : Policy.anywhere.finds "INSERT" (Text.upper (Text.trimStart sql)) = true :=
    Text.contains_of_starts (starts_of_insertion insertion)
  have noUpdate : ¬Policy.anywhere.finds "UPDATE" (Text.upper (Text.trimStart sql)) = true := silent
  rw [classify_eq, if_neg noUpdate, if_pos insert]

end Sql
end SqlPipeline
