import Mathlib.Algebra.Order.Group.Multiset
import SqlPipeline.Parameter.Collection

/-!
What becomes of the parameters when they are changed. A key leads to one place among them or to none,
and every change makes one stretch of them give way to another, while the rest keeps its order. Over
any run of changes no parameter is therefore lost or doubled.
-/

namespace SqlPipeline
namespace Parameters

variable {parameters changed : Parameters} {entries before after : List Entry}
  {entry found : Entry} {name : Text} {key : Key} {holds : Entry -> Bool}

/-- A list cut at the first of its entries with a property. -/
structure CutAt (holds : Entry -> Bool) (entries before : List Entry) (found : Entry)
    (after : List Entry) : Prop where
  parts : entries = before ++ found :: after
  own : holds found = true
  apart : ∀ earlier ∈ before, holds earlier = false

theorem cut_cases (holds : Entry -> Bool) (entries : List Entry) :
    (∃ before found after, CutAt holds entries before found after) ∨
      ∀ entry ∈ entries, holds entry = false := by
  cases first : entries.find? holds with
  | some found =>
      obtain ⟨own, before, after, parts, apart⟩ := List.find?_eq_some_iff_append.mp first
      exact .inl ⟨before, found, after, parts, own, fun earlier member =>
        Bool.not_eq_true' _ ▸ apart earlier member⟩
  | none =>
      exact .inr fun entry member =>
        Bool.eq_false_iff.mpr (List.find?_eq_none.mp first entry member)

namespace CutAt

theorem find (cut : CutAt holds entries before found after) : entries.find? holds = some found := by
  have passed : before.find? holds = none :=
    List.find?_eq_none.mpr fun earlier member => Bool.eq_false_iff.mp (cut.apart earlier member)
  rw [cut.parts, List.find?_append, passed, Option.none_or, List.find?_cons_of_pos cut.own]

theorem index (cut : CutAt holds entries before found after) :
    entries.findIdx? holds = some before.length := by
  rw [cut.parts, List.findIdx?_append, List.findIdx?_eq_none_iff.mpr cut.apart, Option.none_or,
    List.findIdx?_cons, if_pos cut.own, Option.map_some, Nat.zero_add]

end CutAt

theorem set_between (before : List Entry) (old entry : Entry) (after : List Entry) :
    (before ++ old :: after).set before.length entry = before ++ entry :: after := by
  rw [List.set_append_right _ _ (Nat.le_refl _), Nat.sub_self, List.set_cons_zero]

theorem erase_between (before : List Entry) (old : Entry) (after : List Entry) :
    (before ++ old :: after).eraseIdx before.length = before ++ after := by
  rw [List.eraseIdx_append_of_length_le (Nat.le_refl _), Nat.sub_self, List.eraseIdx_cons_zero]

theorem insert_between (before : List Entry) (entry : Entry) (after : List Entry) :
    (before ++ after).insertIdx before.length entry = before ++ entry :: after := by
  induction before with
  | nil => rfl
  | cons first rest ih =>
      rw [List.cons_append, List.length_cons, List.insertIdx_succ_cons, ih, List.cons_append]

/-- A key leads to a parameter, which is read, replaced and removed under it in its place. -/
structure LeadsTo (parameters : Parameters) (key : Key) (before : List Entry) (found : Entry)
    (after : List Entry) : Prop where
  parts : parameters.entries = before ++ found :: after
  get : parameters.get key = .ok found
  set : ∀ entry, parameters.set key entry = .ok ⟨before ++ entry :: after⟩
  removeAt : parameters.removeAt key = .ok ⟨before ++ after⟩

/-- A key that leads to no parameter takes none out, and what is put in under it goes to the end. -/
structure LeadsNowhere (parameters : Parameters) (key : Key) : Prop where
  get : ∃ fault, parameters.get key = .error fault
  set : ∀ entry changed, parameters.set key entry = .ok changed -> changed = parameters.add entry
  removeAt : ∀ changed, parameters.removeAt key = .ok changed -> changed = parameters

/-- What a key leads to, if it leads anywhere. -/
def held (parameters : Parameters) (key : Key) : List Entry :=
  (parameters.get key).toOption.toList

theorem LeadsTo.held_eq (leads : parameters.LeadsTo key before found after) :
    parameters.held key = [found] := by
  rw [held, leads.get]
  rfl

theorem LeadsNowhere.held_eq (nowhere : parameters.LeadsNowhere key) : parameters.held key = [] := by
  obtain ⟨fault, unread⟩ := nowhere.get
  rw [held, unread]
  rfl

theorem name_leads (cut : CutAt (answersTo name) parameters.entries before found after) :
    parameters.LeadsTo (.name name) before found after := by
  have index : parameters.indexOf? name = some before.length := cut.index
  have find : parameters.find? name = some found := cut.find
  refine ⟨cut.parts, ?_, fun entry => ?_, ?_⟩
  · rw [get, find]
  · rw [set, index, cut.parts]
    dsimp only
    rw [set_between]
  · rw [removeAt, index, cut.parts]
    dsimp only
    rw [erase_between]

/-- No parameter answers to a name. -/
def Lacks (parameters : Parameters) (name : Text) : Prop :=
  ∀ entry ∈ parameters.entries, answersTo name entry = false

namespace Lacks

theorem index (lacks : parameters.Lacks name) : parameters.indexOf? name = none :=
  List.findIdx?_eq_none_iff.mpr lacks

theorem find (lacks : parameters.Lacks name) : parameters.find? name = none :=
  List.find?_eq_none.mpr fun entry member => Bool.eq_false_iff.mp (lacks entry member)

theorem set (lacks : parameters.Lacks name) (entry : Entry) :
    parameters.set (.name name) entry = .ok (parameters.add entry) := by
  rw [Parameters.set, lacks.index]

theorem removeAt (lacks : parameters.Lacks name) :
    parameters.removeAt (.name name) = .ok parameters := by
  rw [Parameters.removeAt, lacks.index]

theorem leads_nowhere (lacks : parameters.Lacks name) : parameters.LeadsNowhere (.name name) := by
  refine ⟨⟨.noParameter name, by rw [get, lacks.find]⟩, ?_, ?_⟩
  · intro entry changed made
    rw [lacks.set] at made
    exact (Except.ok.inj made).symm
  · intro changed made
    rw [lacks.removeAt] at made
    exact (Except.ok.inj made).symm

end Lacks

/-- A name leads to the first parameter that answers to it, or no parameter does. -/
theorem name_cases (parameters : Parameters) (name : Text) :
    (∃ before found after, CutAt (answersTo name) parameters.entries before found after) ∨
      parameters.Lacks name :=
  cut_cases (answersTo name) parameters.entries

theorem resolved_inside {length position : Nat} {index : Int}
    (resolved : Position.resolve? length index = some position) : position < length := by
  simp only [Position.resolve?, Option.ite_none_right_eq_some, Option.some.injEq] at resolved
  omega

theorem position_leads {index : Int} (parts : parameters.entries = before ++ found :: after)
    (resolved : Position.resolve? parameters.entries.length index = some before.length) :
    parameters.LeadsTo (.position index) before found after := by
  have place : Position.resolve? parameters.size index = some before.length := resolved
  refine ⟨parts, ?_, fun entry => ?_, ?_⟩
  · rw [get, Position.item, resolved, Option.bind_some, parts,
      List.getElem?_append_right (Nat.le_refl _), Nat.sub_self, List.getElem?_cons_zero]
  · rw [set, place, parts]
    dsimp only
    rw [set_between]
  · rw [removeAt, place, parts]
    dsimp only
    rw [erase_between]

theorem exists_parts {position : Nat} (inside : position < entries.length) :
    ∃ before found after, entries = before ++ found :: after ∧ before.length = position := by
  refine ⟨entries.take position, entries[position], entries.drop (position + 1), ?_,
    List.length_take_of_le (Nat.le_of_lt inside)⟩
  rw [← List.drop_eq_getElem_cons inside, List.take_append_drop]

theorem unresolved_leads_nowhere {index : Int}
    (unresolved : Position.resolve? parameters.size index = none) :
    parameters.LeadsNowhere (.position index) := by
  refine ⟨⟨.badIndex, ?_⟩, ?_, ?_⟩
  · have outside : Position.resolve? parameters.entries.length index = none := unresolved
    rw [get, Position.item, outside, Option.bind_none]
  · intro entry changed made
    rw [set, unresolved] at made
    cases made
  · intro changed made
    rw [removeAt, unresolved] at made
    cases made

theorem key_cases (parameters : Parameters) (key : Key) :
    (∃ before found after, parameters.LeadsTo key before found after) ∨
      parameters.LeadsNowhere key := by
  cases key with
  | name name =>
      rcases parameters.name_cases name with ⟨before, found, after, cut⟩ | lacks
      · exact .inl ⟨before, found, after, name_leads cut⟩
      · exact .inr lacks.leads_nowhere
  | position index =>
      cases resolved : Position.resolve? parameters.size index with
      | some position =>
          obtain ⟨before, found, after, parts, place⟩ := exists_parts (resolved_inside resolved)
          exact .inl ⟨before, found, after, position_leads parts (place ▸ resolved)⟩
      | none => exact .inr (unresolved_leads_nowhere resolved)

/-- One stretch of a list gives way to another, and the rest keeps its order. -/
def Splices (entries taken given result : List Entry) : Prop :=
  ∃ before after, entries = before ++ taken ++ after ∧ result = before ++ given ++ after

/-- What can be done to the parameters. -/
inductive Change where
  | add (entry : Entry)
  | extend (entries : List Entry)
  | insert (index : Int) (entry : Entry)
  | remove (number : Nat)
  | removeAt (key : Key)
  | clear
  | set (key : Key) (entry : Entry)

namespace Change

def attempt (parameters : Parameters) : Change -> Except Fault Parameters
  | add entry => .ok (parameters.add entry)
  | extend entries => .ok (parameters.extend entries)
  | insert index entry => parameters.insert index entry
  | remove number => parameters.remove number
  | removeAt key => parameters.removeAt key
  | clear => .ok .empty
  | set key entry => parameters.set key entry

/-- A change that is refused leaves the parameters as they are. -/
def apply (parameters : Parameters) (change : Change) : Parameters :=
  match change.attempt parameters with
  | .ok changed => changed
  | .error _ => parameters

/-- The entries that a change takes out. -/
def taken (parameters : Parameters) : Change -> List Entry
  | add _ => []
  | extend _ => []
  | insert _ _ => []
  | remove number => (parameters.entries.find? fun entry => entry.number = number).toList
  | removeAt key => parameters.held key
  | clear => parameters.entries
  | set key _ => parameters.held key

def offered : Change -> List Entry
  | add entry => [entry]
  | extend entries => entries
  | insert _ entry => [entry]
  | remove _ => []
  | removeAt _ => []
  | clear => []
  | set _ entry => [entry]

/-- The entries that a change puts in, which are none when it is refused. -/
def given (parameters : Parameters) (change : Change) : List Entry :=
  match change.attempt parameters with
  | .ok _ => change.offered
  | .error _ => []

end Change

theorem Splices.append (entries given : List Entry) :
    Splices entries [] given (entries ++ given) :=
  ⟨entries, [], by simp, by simp⟩

theorem Splices.nothing (entries : List Entry) : Splices entries [] [] entries :=
  ⟨entries, [], by simp, by simp⟩

/-- What was there and what is put in is what is there afterwards and what was taken out. -/
theorem Splices.balance {taken given result : List Entry}
    (splices : Splices entries taken given result) :
    (result ++ taken).Perm (entries ++ given) := by
  obtain ⟨before, after, rfl, rfl⟩ := splices
  simp only [← Multiset.coe_eq_coe, ← Multiset.coe_add]
  ac_rfl

namespace Change

variable {change : Change}

theorem splices_of_made (made : change.attempt parameters = .ok changed)
    (splices : Splices parameters.entries (change.taken parameters) change.offered
      changed.entries) :
    Splices parameters.entries (change.taken parameters) (change.given parameters)
      (change.apply parameters).entries := by
  rwa [given, apply, made]

theorem splices_of_refused {fault : Fault} (refused : change.attempt parameters = .error fault)
    (nothing : change.taken parameters = []) :
    Splices parameters.entries (change.taken parameters) (change.given parameters)
      (change.apply parameters).entries := by
  rw [given, apply, refused, nothing]
  exact .nothing parameters.entries

theorem insert_splices (parameters : Parameters) (index : Int) (entry : Entry) :
    Splices parameters.entries ((insert index entry).taken parameters)
      ((insert index entry).given parameters) ((insert index entry).apply parameters).entries := by
  cases inRange : Position.isInRange index with
  | true =>
      let place := Position.clamp parameters.size index
      have inside : place ≤ parameters.entries.length := Nat.min_le_right _ _
      have inserted := insert_between (parameters.entries.take place) entry
        (parameters.entries.drop place)
      rw [List.take_append_drop, List.length_take_of_le inside] at inserted
      refine splices_of_made (if_pos inRange) ⟨parameters.entries.take place,
        parameters.entries.drop place, ?_, ?_⟩
      · rw [taken, List.append_nil, List.take_append_drop]
      · rw [offered, List.append_assoc]
        exact inserted
  | false => exact splices_of_refused (if_neg (Bool.eq_false_iff.mp inRange)) rfl

theorem remove_splices (parameters : Parameters) (number : Nat) :
    Splices parameters.entries ((remove number).taken parameters)
      ((remove number).given parameters) ((remove number).apply parameters).entries := by
  rcases cut_cases (fun entry => entry.number = number) parameters.entries with
    ⟨before, found, after, cut⟩ | silent
  · have index : parameters.indexOfNumber? number = some before.length := cut.index
    have made : (remove number).attempt parameters = .ok ⟨before ++ after⟩ := by
      rw [attempt, Parameters.remove, index, cut.parts]
      dsimp only
      rw [erase_between]
    refine splices_of_made made ⟨before, after, ?_, ?_⟩
    · rw [taken, cut.find, cut.parts, Option.toList_some, List.append_cons]
    · rw [offered, List.append_nil]
  · have index : parameters.indexOfNumber? number = none := List.findIdx?_eq_none_iff.mpr silent
    have refused : (remove number).attempt parameters = .error .badContent := by
      rw [attempt, Parameters.remove, index]
    refine splices_of_refused refused ?_
    rw [taken, List.find?_eq_none.mpr fun entry member =>
      Bool.eq_false_iff.mp (silent entry member), Option.toList_none]

theorem remove_at_splices (parameters : Parameters) (key : Key) :
    Splices parameters.entries ((removeAt key).taken parameters)
      ((removeAt key).given parameters) ((removeAt key).apply parameters).entries := by
  rcases key_cases parameters key with ⟨before, found, after, leads⟩ | nowhere
  · refine splices_of_made leads.removeAt ⟨before, after, ?_, ?_⟩
    · rw [taken, leads.held_eq, leads.parts, List.append_cons]
    · rw [offered, List.append_nil]
  · have nothing : (removeAt key).taken parameters = [] := nowhere.held_eq
    cases made : parameters.removeAt key with
    | ok changed =>
        refine splices_of_made made ?_
        rw [nothing, nowhere.removeAt changed made]
        exact .nothing parameters.entries
    | error fault => exact splices_of_refused made nothing

theorem set_splices (parameters : Parameters) (key : Key) (entry : Entry) :
    Splices parameters.entries ((set key entry).taken parameters)
      ((set key entry).given parameters) ((set key entry).apply parameters).entries := by
  rcases key_cases parameters key with ⟨before, found, after, leads⟩ | nowhere
  · refine splices_of_made (leads.set entry) ⟨before, after, ?_, ?_⟩
    · rw [taken, leads.held_eq, leads.parts, List.append_cons]
    · rw [offered, List.append_cons]
  · have nothing : (set key entry).taken parameters = [] := nowhere.held_eq
    cases made : parameters.set key entry with
    | ok changed =>
        refine splices_of_made made ?_
        rw [nothing, nowhere.set entry changed made]
        exact .append parameters.entries [entry]
    | error fault => exact splices_of_refused made nothing

/-- A change puts what it is given into the place of what it takes out, and moves nothing else. -/
theorem splices (parameters : Parameters) (change : Change) :
    Splices parameters.entries (change.taken parameters) (change.given parameters)
      (change.apply parameters).entries := by
  cases change with
  | add entry => exact splices_of_made rfl (.append parameters.entries [entry])
  | extend entries => exact splices_of_made rfl (.append parameters.entries entries)
  | insert index entry => exact insert_splices parameters index entry
  | remove number => exact remove_splices parameters number
  | removeAt key => exact remove_at_splices parameters key
  | clear => exact splices_of_made rfl ⟨[], [], (List.append_nil _).symm, rfl⟩
  | set key entry => exact set_splices parameters key entry

end Change

/-- The parameters after some changes, of which those that are refused change nothing. -/
def changedBy (start : Parameters) (changes : List Change) : Parameters :=
  changes.foldl Change.apply start

/-- All that is taken out in the course of some changes. -/
def takenBy (start : Parameters) : List Change -> List Entry
  | [] => []
  | change :: rest => change.taken start ++ takenBy (change.apply start) rest

/-- All that is put in in the course of some changes. -/
def givenBy (start : Parameters) : List Change -> List Entry
  | [] => []
  | change :: rest => change.given start ++ givenBy (change.apply start) rest

/-- Over a run of changes nothing is lost and nothing is doubled. -/
theorem run_balance (start : Parameters) (changes : List Change) :
    ((start.changedBy changes).entries ++ start.takenBy changes).Perm
      (start.entries ++ start.givenBy changes) := by
  induction changes generalizing start with
  | nil => exact .refl _
  | cons change rest ih =>
      have step := (Change.splices start change).balance
      have later := ih (change.apply start)
      rw [changedBy, List.foldl_cons, takenBy, givenBy]
      simp only [← Multiset.coe_eq_coe, ← Multiset.coe_add] at step later ⊢
      calc
        _ = (((change.apply start).changedBy rest).entries + (change.apply start).takenBy rest :
              Multiset Entry) + change.taken start := by rw [changedBy]; ac_rfl
        _ = ((change.apply start).entries + change.taken start : Multiset Entry) +
              (change.apply start).givenBy rest := by rw [later]; ac_rfl
        _ = _ := by rw [step]; ac_rfl

end Parameters
end SqlPipeline
