import Mathlib.Data.List.Induction
import SqlPipeline.Members

/-!
Named members. What is assigned to a name is looked up under it, and nothing changes under the others;
members that are written under distinct names stay as they are written.
-/

namespace SqlPipeline
namespace Members

variable {α : Type}

theorem lookup_assign (name : Text) (member : α) (members : Members α) :
    lookup name (assign name member members) = some member := by
  induction members with
  | nil => exact List.lookup_cons_self
  | cons entry rest ih =>
      obtain ⟨key, old⟩ := entry
      rw [assign]
      by_cases same : key = name
      · rw [if_pos same, lookup_cons, if_pos same]
      · rw [if_neg same, lookup_cons, if_neg same, ih]

theorem lookup_assign_other {name other : Text} (different : name ≠ other) (member : α)
    (members : Members α) : lookup other (assign name member members) = lookup other members := by
  induction members with
  | nil => rw [assign, lookup_cons, if_neg different]
  | cons entry rest ih =>
      obtain ⟨key, old⟩ := entry
      rw [assign]
      by_cases same : key = name
      · rw [if_pos same, lookup_cons, lookup_cons, if_neg (same ▸ different),
          if_neg (same ▸ different)]
      · rw [if_neg same, lookup_cons, lookup_cons, ih]

theorem assign_absent {name : Text} (member : α) {members : Members α}
    (absent : name ∉ members.map Prod.fst) :
    assign name member members = members ++ [(name, member)] := by
  induction members with
  | nil => rfl
  | cons first rest ih =>
      obtain ⟨key, old⟩ := first
      rw [List.map_cons, List.mem_cons, not_or] at absent
      rw [assign, if_neg fun same => absent.1 same.symm, ih absent.2, List.cons_append]

/-- Members of distinct names stay as they are written. -/
theorem of_list_distinct {members : List (Text × α)} (distinct : (members.map Prod.fst).Nodup) :
    ofList members = members := by
  induction members using List.reverseRecOn with
  | nil => rfl
  | append_singleton earlier last ih =>
      rw [List.map_append, List.nodup_append] at distinct
      obtain ⟨earlierDistinct, _, apart⟩ := distinct
      have absent : last.1 ∉ earlier.map Prod.fst := fun member =>
        apart last.1 member last.1 (by simp) rfl
      have before : earlier.foldl (fun entries member => assign member.1 member.2 entries) [] =
          earlier := ih earlierDistinct
      rw [ofList, List.foldl_append, before]
      exact assign_absent last.2 absent

end Members
end SqlPipeline
