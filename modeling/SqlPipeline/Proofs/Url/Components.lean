import SqlPipeline.Proofs.Text.Cut
import SqlPipeline.Url.Basic

/-!
The components of an address as they are written. The first question mark or number sign ends the
path: what stands before it makes up the scheme, the authority and the path, and what stands behind
it the query and the fragment, so that neither side bears on how the other is read.
-/

namespace SqlPipeline
namespace Url

structure Components where
  scheme : Text
  authority : Text
  path : Text
  query? : Option Text
  fragment? : Option Text

def components (s : Text) : Components :=
  let (scheme, rest) := splitScheme s
  let (authority, rest) := splitAuthority rest
  let path := rest.takeWhile fun c => !endsPath c
  let (query?, rest) := splitQuery (rest.dropWhile fun c => !endsPath c)
  ⟨scheme, authority, path, query?, fragmentOf? rest⟩

/-- The items of a query, with ampersands between them. -/
def items : Option Text -> List Text
  | none => []
  | some query => List.splitOn '&' query

/-- An address is read from its components. -/
theorem of_text_eq (s : Text) :
    ofText? s =
      if longest < s.length || s.any isControl then none
      else ofParts? (components s).scheme (components s).authority (components s).path
        (components s).query? (components s).fragment? :=
  rfl

section Ends

variable {front tail : Text} {c : Char}

theorem ends_path_iff : endsPath c = true ↔ c = '?' ∨ c = '#' := by
  simp [endsPath]

theorem scheme_stops (ends : endsPath c = true) : isSchemeChar c = false ∧ c ≠ ':' ∧ c ≠ '/' := by
  rcases ends_path_iff.mp ends with rfl | rfl <;> decide

theorem authority_stops (ends : endsPath c = true) : endsAuthority c = true := by
  rcases ends_path_iff.mp ends with rfl | rfl <;> rfl

theorem ends_free (free : ∀ c ∈ front, endsPath c = false) (ends : endsPath c = true) :
    c ∉ front := by
  intro member
  rw [free c member] at ends
  cases ends

/-- What ends the path stands behind the scheme. -/
theorem split_scheme_append (front : Text) (stop : ∀ c ∈ tail.head?, endsPath c = true) :
    splitScheme (front ++ tail) = ((splitScheme front).1, (splitScheme front).2 ++ tail) := by
  have schemeStop : ∀ c ∈ tail.head?, isSchemeChar c = false :=
    fun c head => (scheme_stops (stop c head)).1
  have taken := Text.take_while_append front schemeStop
  have left := Text.drop_while_append front schemeStop
  cases front with
  | nil =>
      cases tail with
      | nil => rfl
      | cons c tail =>
          obtain ⟨other, notColon, -⟩ := scheme_stops (stop c rfl)
          simp [splitScheme, other, notColon]
  | cons first front =>
      rw [splitScheme, splitScheme, taken, left, List.cons_append, List.head?_cons, List.head?_cons]
      cases (first :: front).dropWhile isSchemeChar with
      | nil =>
          cases tail with
          | nil => rfl
          | cons c tail =>
              have notColon := (scheme_stops (stop c rfl)).2.1
              simp [notColon]
      | cons c rest =>
          by_cases colon : c = ':'
          · subst colon
            simp only [List.cons_append]
            split_ifs <;> rfl
          · simp [colon]

theorem split_authority_bare {s : Text} (bare : ¬['/', '/'] <+: s) :
    splitAuthority s = ([], s) := by
  unfold splitAuthority
  split
  · exact absurd ⟨_, rfl⟩ bare
  · rfl

theorem split_authority_append (front : Text) (stop : ∀ c ∈ tail.head?, endsPath c = true) :
    splitAuthority (front ++ tail) =
      ((splitAuthority front).1, (splitAuthority front).2 ++ tail) := by
  have authorityStop : ∀ c ∈ tail.head?, (!endsAuthority c) = false := by
    intro c head
    rw [authority_stops (stop c head)]
    rfl
  have noSlash : tail.head? ≠ some '/' := fun head => (scheme_stops (stop '/' head)).2.2 rfl
  by_cases marked : ['/', '/'] <+: front
  · obtain ⟨rest, rfl⟩ := marked
    have taken := Text.take_while_append rest authorityStop
    have left := Text.drop_while_append rest authorityStop
    simp only [List.cons_append, List.nil_append, splitAuthority, taken, left]
  · have bare : ¬['/', '/'] <+: front ++ tail := by
      rintro ⟨later, same⟩
      match front with
      | [] => exact noSlash (congrArg List.head? same.symm)
      | [first] => exact noSlash (congrArg List.head? (List.cons.inj same).2.symm)
      | first :: second :: rest =>
          simp only [List.cons_append, List.cons.injEq] at same
          obtain ⟨rfl, rfl, -⟩ := same
          exact marked ⟨rest, rfl⟩
    rw [split_authority_bare bare, split_authority_bare marked]

/-- An address has no scheme, or one up to the colon behind its first characters. -/
theorem split_scheme_cases (s : Text) :
    splitScheme s = ([], s) ∨
      ∃ rest, splitScheme s = (s.takeWhile isSchemeChar, rest) ∧
        s = s.takeWhile isSchemeChar ++ ':' :: rest := by
  unfold splitScheme
  split
  · rename_i first rest _ behind
    split_ifs
    · exact .inr ⟨rest, rfl, by rw [← behind, List.takeWhile_append_dropWhile]⟩
    · exact .inl rfl
  · exact .inl rfl

theorem split_scheme_rest (s : Text) : (splitScheme s).2 <:+ s := by
  rcases split_scheme_cases s with none | ⟨rest, split, cut⟩
  · simp only [none, List.suffix_rfl]
  · rw [split]
    exact (List.suffix_cons ':' rest).trans ⟨_, cut.symm⟩

theorem split_scheme_cut {s : Text} (filled : (splitScheme s).1 ≠ []) :
    s = (splitScheme s).1 ++ ':' :: (splitScheme s).2 := by
  rcases split_scheme_cases s with none | ⟨rest, split, cut⟩
  · rw [none] at filled
    exact absurd rfl filled
  · rw [split]
    exact cut

theorem split_authority_rest (s : Text) : (splitAuthority s).2 <:+ s := by
  unfold splitAuthority
  split
  · exact (List.dropWhile_suffix _).trans ((List.suffix_cons _ _).trans (List.suffix_cons _ _))
  · exact List.suffix_rfl

/-- What ends the path parts an address: the components before it are those of the front alone, and
those behind it are up to the tail. -/
theorem components_append (free : ∀ c ∈ front, endsPath c = false)
    (stop : ∀ c ∈ tail.head?, endsPath c = true) :
    components (front ++ tail) =
      { components front with
        query? := (splitQuery tail).1, fragment? := fragmentOf? (splitQuery tail).2 } := by
  have pathStop : ∀ c ∈ tail.head?, (!endsPath c) = false := by
    intro c head
    rw [stop c head]
    rfl
  have within : (splitAuthority (splitScheme front).2).2 <:+ front :=
    (split_authority_rest _).trans (split_scheme_rest _)
  have path : ∀ c ∈ (splitAuthority (splitScheme front).2).2, (!endsPath c) = true := by
    intro c member
    rw [free c (within.subset member)]
    rfl
  simp only [components, split_scheme_append front stop, split_authority_append _ stop,
    Text.take_while_append _ pathStop, Text.drop_while_append _ pathStop,
    List.dropWhile_eq_nil_iff.mpr path, List.nil_append]

end Ends

/-- Every address is parted by what ends its path. -/
theorem exists_parting (s : Text) :
    ∃ front tail : Text, s = front ++ tail ∧ (∀ c ∈ front, endsPath c = false) ∧
      ∀ c ∈ tail.head?, endsPath c = true := by
  refine ⟨s.takeWhile fun c => !endsPath c, s.dropWhile fun c => !endsPath c,
    List.takeWhile_append_dropWhile.symm, ?_, ?_⟩
  · intro c member
    simpa using List.mem_takeWhile_imp member
  · intro c head
    simpa using Text.drop_while_head c head

section Reading

variable {s : Text} {url : Url}

/-- An address that is read has the scheme that is written in small letters, and the query that is
written in its encoded form. -/
theorem of_text_read (read : ofText? s = some url) :
    url.scheme = (components s).scheme.map Char.toLower ∧
      url.query? = (components s).query?.map (encode isQueryChar) := by
  rw [of_text_eq, Option.ite_none_left_eq_some] at read
  simp only [ofParts?, Option.bind_eq_bind, Option.bind_eq_some_iff,
    Option.ite_none_right_eq_some, Option.some.injEq] at read
  obtain ⟨-, host, -, port?, -, -, rfl⟩ := read
  exact ⟨rfl, rfl⟩

/-- A request asks for the query of its address. -/
theorem target_query (url : Url) : url.target.query? = url.query? := by
  rw [target]
  split_ifs <;> rfl

theorem encode_append (isSafe : Char -> Bool) (s t : Text) :
    encode isSafe (s ++ t) = encode isSafe s ++ encode isSafe t :=
  List.flatMap_append

theorem items_append (query : Text) {item : Text} (whole : '&' ∉ item) :
    items (some (query ++ '&' :: item)) = items (some query) ++ [item] := by
  rw [items, List.splitOn_append_cons_self, List.splitOn_eq_singleton whole]
  rfl

end Reading

end Url
end SqlPipeline
