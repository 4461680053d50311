import SqlPipeline.Text.Basic

/-!
Named members in the order in which their names first appear.
-/

namespace SqlPipeline

abbrev Members (α : Type) := List (Text × α)

namespace Members

/-- The member of a name. -/
def lookup (name : Text) (members : Members α) : Option α :=
  List.lookup name members

theorem lookup_cons (name key : Text) (member : α) (rest : Members α) :
    lookup name ((key, member) :: rest) = if key = name then some member else lookup name rest := by
  by_cases same : key = name
  · rw [if_pos same, lookup, same, List.lookup_cons_self]
  · have other : (name == key) = false := beq_eq_false_iff_ne.mpr (Ne.symm same)
    rw [if_neg same, lookup, List.lookup_cons, other, lookup]

/-- Gives a name a member, in the place of the one it had. -/
def assign (name : Text) (member : α) : Members α -> Members α
  | [] => [(name, member)]
  | (key, old) :: rest =>
      if key = name then (key, member) :: rest else (key, old) :: assign name member rest

/-- Members as they are written; of two with one name the later one counts. -/
def ofList (members : List (Text × α)) : Members α :=
  members.foldl (fun entries member => assign member.1 member.2 entries) []

end Members
end SqlPipeline
