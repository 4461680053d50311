import SqlPipeline.Proofs.Batch.Shape
import SqlPipeline.Proofs.Sql.Numbering
import SqlPipeline.Proofs.Sql.Splitting

/-!
The queries about the row of a keyed modification. Their table is cut out of the text of the
statement, which may say anything. What is cut out is one name or two, none of them empty and none
with a double quote in it, so that each is a literal once it stands between double quotes: whatever
the names say, a query is one statement and has no placeholder.
-/

namespace SqlPipeline
namespace Sql
namespace TableName

/-- A name that can stand between double quotes as it is. -/
def IsClean (part : Text) : Prop :=
  part ≠ [] ∧ '"' ∉ part

section Names

variable {s rest part : Text} {name : Name} {parts : List Text}

theorem quoted_clean (read : name? ('"' :: s) = some (name, rest))
    (named : name.text? = some part) : IsClean part := by
  rw [name?] at read
  cases closing : s.dropWhile (· ≠ '"') with
  | nil =>
      simp only [closing] at read
      cases read
  | cons quote after =>
      simp only [closing, Option.ite_none_left_eq_some, Option.some.injEq, Prod.mk.injEq] at read
      obtain ⟨filled, rfl, rfl⟩ := read
      cases named
      refine ⟨by simpa using filled, fun member => ?_⟩
      simpa using List.mem_takeWhile_imp member

/-- A bare word is followed up to its end by word characters, of which the quote is none. -/
theorem bare_clean {c : Char} (unquoted : c ≠ '"') (read : name? (c :: s) = some (name, rest))
    (named : name.text? = some part) : IsClean part := by
  rw [name?, Option.ite_none_right_eq_some, Option.some.injEq, Prod.mk.injEq] at read
  · obtain ⟨-, rfl, rfl⟩ := read
    have word : '"' ∉ c :: s.takeWhile Text.isWordChar := by
      rw [List.mem_cons, not_or]
      refine ⟨Ne.symm unquoted, fun member => ?_⟩
      exact absurd (List.mem_takeWhile_imp member) (by decide +kernel)
    rw [Name.text?] at named
    cases start : (c :: s.takeWhile Text.isWordChar).dropWhile fun c => !startsName c with
    | nil =>
        rw [start] at named
        cases named
    | cons first later =>
        rw [start] at named
        cases named
        refine ⟨List.cons_ne_nil _ _, fun member => word ?_⟩
        rw [← start] at member
        exact (List.dropWhile_suffix _).subset member
  · exact unquoted

theorem name_clean (read : name? s = some (name, rest)) (named : name.text? = some part) :
    IsClean part := by
  cases s with
  | nil => cases read
  | cons c s =>
      by_cases quote : c = '"'
      · subst quote
        exact quoted_clean read named
      · exact bare_clean quote read named

theorem qualified_read (found : qualified? s = some name) :
    ∃ from_ rest, name? from_ = some (name, rest) := by
  simp only [qualified?, Option.bind_eq_bind, Option.bind_eq_some_iff, Option.some.injEq] at found
  obtain ⟨after, -, ⟨_, rest⟩, read, rfl⟩ := found
  exact ⟨_, rest, read⟩

/-- A reference has no more than two names. -/
theorem reference_clean (found : reference? s = some parts) :
    parts.length ≤ 2 ∧ ∀ part ∈ parts, IsClean part := by
  simp only [reference?, Option.bind_eq_bind, Option.bind_eq_some_iff, Option.some.injEq] at found
  obtain ⟨start, -, ⟨first, after⟩, read, rfl⟩ := found
  constructor
  · have second : (qualified? after).toList.length ≤ 1 := by
      cases qualified? after <;> simp
    exact (List.length_filterMap_le _ _).trans (Nat.succ_le_succ second)
  · intro part member
    obtain ⟨name, inside, named⟩ := List.mem_filterMap.mp member
    rcases List.mem_cons.mp inside with rfl | qualified
    · exact name_clean read named
    · obtain ⟨_, _, read⟩ := qualified_read (Option.mem_toList.mp qualified)
      exact name_clean read named

theorem find_reference {inWord : Bool} (found : findFrom? inWord s = some parts) :
    ∃ later, reference? later = some parts := by
  induction s generalizing inWord with
  | nil => cases found
  | cons c s ih =>
      rw [findFrom?] at found
      split at found
      · rename_i here
        rw [Option.ite_none_left_eq_some] at here
        cases found
        exact ⟨_, here.2⟩
      · exact ih found

theorem parts_clean (found : parts? s = some parts) :
    (parts.length = 1 ∨ parts.length = 2) ∧ ∀ part ∈ parts, IsClean part := by
  simp only [parts?, Option.bind_eq_bind, Option.bind_eq_some_iff, Option.ite_none_left_eq_some,
    List.isEmpty_iff, Option.some.injEq] at found
  obtain ⟨_, searched, nonempty, rfl⟩ := found
  obtain ⟨later, read⟩ := find_reference searched
  obtain ⟨most, clean⟩ := reference_clean read
  have least := List.length_pos_iff.mpr nonempty
  exact ⟨by omega, clean⟩

end Names

end TableName

/-- A text that leaves the quotes as they were and shows no cut and no mark outside of them. -/
structure IsSealed (s : Text) : Prop where
  bare : Quoting.bare.run s = .bare
  uncut : Quoting.bare.Hides ';' s
  unmarked : Quoting.bare.Hides '@' s

namespace IsSealed

variable {s t : Text}

theorem append (first : IsSealed s) (second : IsSealed t) : IsSealed (s ++ t) where
  bare := by rw [Quoting.run_append, first.bare, second.bare]
  uncut := Quoting.hides_append.mpr ⟨first.uncut, by rw [first.bare]; exact second.uncut⟩
  unmarked := Quoting.hides_append.mpr ⟨first.unmarked, by rw [first.bare]; exact second.unmarked⟩

theorem of_literal (content : Text) : IsSealed (literal '"' content) where
  bare := literal_run (.inr rfl) content
  uncut := literal_hides (.inr rfl) (by decide) content
  unmarked := literal_hides (.inr rfl) (by decide) content

/-- A quoted reference is a literal, or two with a dot between them. -/
theorem of_reference (parts : List Text) :
    IsSealed (List.intercalate "." (parts.map TableName.quotePart)) := by
  induction parts with
  | nil => exact ⟨rfl, trivial, trivial⟩
  | cons part later ih =>
      cases later with
      | nil =>
          rw [List.map_singleton, List.intercalate_singleton]
          exact of_literal part
      | cons next others =>
          have dot : IsSealed ".".toList := ⟨rfl, by decide, by decide⟩
          rw [List.map_cons, List.map_cons, List.intercalate_cons_cons]
          exact ((of_literal part).append dot).append ih

/-- A sealed text with a cut behind it is one statement, if nothing is trimmed off its start. -/
theorem split_closed (sealed : IsSealed s) (filled : s ≠ [])
    (solid : ∀ c ∈ s.head?, Text.isBlank c = false) : split (s ++ [';']) = [s ++ [';']] := by
  have closed : IsClosed (s ++ [';']) := ⟨s, rfl, sealed.uncut, sealed.bare⟩
  apply split_of_closed closed
  · apply Text.trim_of_ends
    · rw [List.head?_append, Option.or_of_isSome (List.isSome_head?.mpr filled)]
      exact solid
    · intro c last
      rw [List.getLast?_concat, Option.mem_some] at last
      rw [← last]
      decide
  · simp [isVoid, filled]

theorem number_closed (sealed : IsSealed s) : number (s ++ [';']) = ⟨s ++ [';'], []⟩ := by
  apply number_of_hidden
  rw [Quoting.hides_append]
  exact ⟨sealed.unmarked, Quoting.hides_of_absent (by decide)⟩

end IsSealed
end Sql

namespace Batch

open Sql (IsSealed)

variable {sql table : Text}

/-- The queries about a row of a table. -/
def rowQueries (table : Text) : List Text :=
  [countText table, rowText table]

/-- What stands behind the table of a query, up to its cut. -/
def rowCondition : Text := " WHERE \"Id\" = ?1"

theorem row_condition_closed : " WHERE \"Id\" = ?1;".toList = rowCondition ++ [';'] := by decide

theorem row_query_text {query : Text} (member : query ∈ rowQueries table) :
    ∃ start, start ≠ [] ∧ (∀ c ∈ start.head?, Text.isBlank c = false) ∧ IsSealed start ∧
      query = start ++ table ++ rowCondition ++ [';'] := by
  have closed (start : Text) : start ++ table ++ " WHERE \"Id\" = ?1;".toList =
      start ++ table ++ rowCondition ++ [';'] :=
    (congrArg (start ++ table ++ ·) row_condition_closed).trans (List.append_assoc _ _ _).symm
  have count : IsSealed "SELECT COUNT(*) FROM ".toList := ⟨rfl, by decide, by decide⟩
  have row : IsSealed "SELECT * FROM ".toList := ⟨rfl, by decide, by decide⟩
  rcases List.mem_pair.mp member with rfl | rfl
  · exact ⟨_, by decide, by decide, count, closed _⟩
  · exact ⟨_, by decide, by decide, row, closed _⟩

theorem row_query_alone (sealed : IsSealed table) {query : Text}
    (member : query ∈ rowQueries table) :
    Sql.split query = [query] ∧ Sql.number query = ⟨query, []⟩ := by
  obtain ⟨start, filled, solid, opening, rfl⟩ := row_query_text member
  have condition : IsSealed rowCondition := ⟨rfl, by decide, by decide⟩
  have whole : IsSealed (start ++ table ++ rowCondition) := (opening.append sealed).append condition
  have started : start ++ table ++ rowCondition ≠ [] := by simp [filled]
  refine ⟨whole.split_closed started ?_, whole.number_closed⟩
  rw [List.append_assoc, List.head?_append, Option.or_of_isSome (List.isSome_head?.mpr filled)]
  exact solid

/-- What a modification sends about its row is one of the two queries, with one argument. -/
theorem row_request_query {operation : Sql.Operation} {parameters : Parameters} {batch : Batch}
    (made : Modification operation sql parameters batch)
    (found : Sql.TableName.quoted? sql = some table) {role : Role}
    (asks : role = .verify ∨ role = .refresh) {request : Wire.Request}
    (member : request ∈ batch.requestsOf role) :
    ∃ query sent, request = .execute ⟨query, [sent]⟩ ∧ query ∈ rowQueries table := by
  have keyed : batch.isKeyed = true := by
    cases made with
    | keyed => rfl
    | plain => rcases asks with rfl | rfl <;> cases member
    | counted => rcases asks with rfl | rfl <;> cases member
  obtain ⟨key, own, sent, checks⟩ := made.checks_row keyed
  have same : own = table := Option.some.inj (checks.resolved.symm.trans found)
  subst same
  rcases asks with rfl | rfl
  · rw [checks.check] at member
    exact ⟨_, sent, List.mem_singleton.mp member, List.mem_cons_self⟩
  · rw [checks.refresh, List.mem_ite_nil_right] at member
    exact ⟨_, sent, List.mem_singleton.mp member.2, List.mem_cons_of_mem _ List.mem_cons_self⟩

/-- A quoted table is one name or two between double quotes, so that the queries about a row of it,
and with them all that a modification sends about its row, are one statement each and have no
placeholder. -/
theorem row_queries_closed {sql table : Text} (found : Sql.TableName.quoted? sql = some table) :
    (∃ parts : List Text, (parts.length = 1 ∨ parts.length = 2) ∧
      (∀ part ∈ parts, part ≠ [] ∧ '"' ∉ part) ∧
      table = List.intercalate "." (parts.map Sql.TableName.enclosed) ∧
      Sql.TableName.plain? sql = some (List.intercalate "." parts)) ∧
    (∀ query ∈ [countText table, rowText table],
      Sql.split query = [query] ∧ Sql.number query = ⟨query, []⟩) ∧
    ∀ (operation : Sql.Operation) (parameters : Parameters) (batch : Batch),
      ofModification operation sql parameters = .ok batch ->
      ∀ role, role = .verify ∨ role = .refresh -> ∀ request ∈ batch.requestsOf role,
        ∃ query sent, request = .execute ⟨query, [sent]⟩ ∧
          query ∈ [countText table, rowText table] := by
  obtain ⟨parts, cut, quoted⟩ := Option.map_eq_some_iff.mp found
  obtain ⟨number, clean⟩ := Sql.TableName.parts_clean cut
  have enclosed : table = List.intercalate "." (parts.map Sql.TableName.enclosed) := by
    rw [← quoted]
    congr 1
    rw [List.map_inj_left]
    exact fun part member => Sql.TableName.quote_part_of_unquoted (clean part member).2
  have plain : Sql.TableName.plain? sql = some (List.intercalate "." parts) := by
    rw [Sql.TableName.plain?, cut]
    rfl
  have sealed : IsSealed table := quoted ▸ IsSealed.of_reference parts
  refine ⟨⟨parts, number, clean, enclosed, plain⟩, fun query => row_query_alone sealed, ?_⟩
  intro operation parameters batch built role asks request member
  exact row_request_query (of_modification_iff.mp built) found asks member

/-- A table whose names hold a semicolon, an apostrophe and a placeholder. -/
def hostileUpdate : Text := "UPDATE \"a;'\" . \"@k; DROP TABLE b\" SET c = 1 WHERE \"Id\" = @k"

theorem row_queries_closed_hostile :
    let table : Text := "\"a;'\".\"@k; DROP TABLE b\""
    Sql.TableName.quoted? hostileUpdate = some table ∧
      Sql.split (countText table) = [countText table] ∧
      Sql.number (countText table) = ⟨countText table, []⟩ := by
  intro table
  have found : Sql.TableName.quoted? hostileUpdate = some table := by decide +kernel
  obtain ⟨-, alone, -⟩ := row_queries_closed found
  exact ⟨found, alone _ List.mem_cons_self⟩

end Batch
end SqlPipeline
