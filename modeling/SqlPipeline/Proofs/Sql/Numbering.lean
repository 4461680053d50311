import SqlPipeline.Proofs.Sql.Quotation
import SqlPipeline.Proofs.Text.Cut
import SqlPipeline.Sql.Placeholder

/-!
How a text is numbered. Characters other than the mark are read one by one, whatever the quotes; an
unquoted mark is read together with the run of word characters after it.
-/

namespace SqlPipeline
namespace Sql

/-- A text that hides the mark is read as it stands. -/
theorem fragments_of_hidden {quoting : Quoting} {s : Text} (hidden : quoting.Hides '@' s)
    (rest : Text) :
    fragmentsFrom quoting (s ++ rest) =
      s.map .literal ++ fragmentsFrom (quoting.run s) rest := by
  induction s generalizing quoting with
  | nil => rfl
  | cons c s ih =>
      obtain ⟨head, later⟩ := hidden
      rw [List.cons_append, fragmentsFrom,
        if_neg fun placeholder => head placeholder.2.1 placeholder.1, ih later, List.map_cons,
        List.cons_append, Quoting.run_cons]

theorem fragments_of_name {name : Text} (nonempty : name ≠ [])
    (word : ∀ c ∈ name, Text.isAsciiWordChar c = true) (rest : Text)
    (stop : ∀ c ∈ rest.head?, Text.isAsciiWordChar c = false) :
    fragmentsFrom .bare ('@' :: (name ++ rest)) =
      .placeholder ('@' :: name) :: fragmentsFrom .bare rest := by
  have taken := Text.take_while_run rest word stop
  have left := Text.drop_while_run rest word stop
  rw [fragmentsFrom, taken, left, if_pos ⟨rfl, rfl, nonempty⟩]

theorem name_run (quoting : Quoting) (s : Text) :
    quoting.run s = quoting.run (s.dropWhile Text.isAsciiWordChar) := by
  have word : quoting.run (s.takeWhile Text.isAsciiWordChar) = quoting := by
    apply Quoting.run_plain (P := fun c => Text.isAsciiWordChar c = true) (by decide) (by decide)
    exact fun c => List.mem_takeWhile_imp
  have whole := Quoting.run_append quoting (s.takeWhile Text.isAsciiWordChar)
    (s.dropWhile Text.isAsciiWordChar)
  rwa [List.takeWhile_append_dropWhile, word] at whole

/-- Two texts are read one after the other, unless the second continues a name. -/
theorem fragments_append (quoting : Quoting) (s : Text) {rest : Text}
    (stop : ∀ c ∈ rest.head?, Text.isAsciiWordChar c = false) :
    fragmentsFrom quoting (s ++ rest) =
      fragmentsFrom quoting s ++ fragmentsFrom (quoting.run s) rest := by
  fun_induction fragmentsFrom quoting s with
  | case1 => rfl
  | case2 quoting c s name found ih =>
      have taken := Text.take_while_append s stop
      have left := Text.drop_while_append s stop
      have state : quoting.run (c :: s) = Quoting.bare.run (s.dropWhile Text.isAsciiWordChar) := by
        rw [Quoting.run_cons, found.1, found.2.1, ← name_run]
        rfl
      rw [List.cons_append, fragmentsFrom, taken, left, if_pos found, state, List.cons_append,
        ← found.2.1, ih]
  | case3 quoting c s name missing ih =>
      have taken := Text.take_while_append s stop
      rw [List.cons_append, fragmentsFrom, taken, if_neg missing, ih, List.cons_append,
        Quoting.run_cons]

theorem literals_unnamed (s : Text) : (s.map Fragment.literal).filterMap Fragment.name? = [] := by
  rw [List.filterMap_eq_nil_iff]
  intro fragment member
  obtain ⟨c, _, rfl⟩ := List.mem_map.mp member
  rfl

theorem text_of_literals (found : List Text) (s : Text) :
    (s.map .literal).flatMap (positional found) = s := by
  induction s with
  | nil => rfl
  | cons c s ih =>
      rw [List.map_cons, List.flatMap_cons, ih]
      rfl

/-- A name is read where its mark stands outside quotes, and reading goes on outside them. -/
theorem fragments_through_name {s name rest : Text} (bare : Quoting.bare.run s = .bare)
    (nonempty : name ≠ []) (word : ∀ c ∈ name, Text.isAsciiWordChar c = true)
    (stop : ∀ c ∈ rest.head?, Text.isAsciiWordChar c = false) :
    fragments (s ++ '@' :: (name ++ rest)) =
      fragments s ++ .placeholder ('@' :: name) :: fragments rest := by
  have mark : ∀ c ∈ ('@' :: (name ++ rest)).head?, Text.isAsciiWordChar c = false := by
    intro c head
    cases head
    decide
  rw [fragments, fragments_append .bare s mark, bare, fragments_of_name nonempty word rest stop]
  rfl

theorem fragments_of_text {s : Text} (hidden : Quoting.bare.Hides '@' s) :
    fragments s = s.map .literal := by
  have whole := fragments_of_hidden hidden []
  rwa [List.append_nil, fragmentsFrom, List.append_nil] at whole

/-- The names of a text are those of its parts, in order. -/
theorem named_through_name {s name rest : Text} (hidden : Quoting.bare.Hides '@' s)
    (bare : Quoting.bare.run s = .bare) (nonempty : name ≠ [])
    (word : ∀ c ∈ name, Text.isAsciiWordChar c = true)
    (stop : ∀ c ∈ rest.head?, Text.isAsciiWordChar c = false) :
    (fragments (s ++ '@' :: (name ++ rest))).filterMap Fragment.name? =
      ('@' :: name) :: (fragments rest).filterMap Fragment.name? := by
  rw [fragments_through_name bare nonempty word stop, fragments_of_text hidden,
    List.filterMap_append, literals_unnamed]
  rfl

/-- A text that is read as it stands is numbered as it stands. -/
theorem number_of_literals {sql : Text} (read : fragments sql = sql.map .literal) :
    number sql = ⟨sql, []⟩ := by
  have found : names (fragments sql) = [] := by
    rw [read, names, literals_unnamed]
    rfl
  rw [number, found, read, text_of_literals]

/-- A text that hides the mark stays as it is. -/
theorem number_of_hidden {sql : Text} (hidden : Quoting.bare.Hides '@' sql) :
    number sql = ⟨sql, []⟩ :=
  number_of_literals (fragments_of_text hidden)

theorem number_of_plain {sql : Text} (plain : '@' ∉ sql) : number sql = ⟨sql, []⟩ :=
  number_of_hidden (Quoting.hides_of_absent plain)

/-- A text that ends with the one placeholder in it. -/
theorem number_of_name {s name : Text} (plain : '@' ∉ s) (bare : Quoting.bare.run s = .bare)
    (nonempty : name ≠ []) (word : name.all Text.isAsciiWordChar = true) :
    number (s ++ '@' :: name) = ⟨s ++ "?1".toList, ['@' :: name]⟩ := by
  have ends : ∀ c ∈ ([] : Text).head?, Text.isAsciiWordChar c = false := fun c none => nomatch none
  have read := fragments_through_name bare nonempty (List.all_eq_true.mp word) ends
  rw [List.append_nil, fragments_of_text (Quoting.hides_of_absent plain), fragments,
    fragments, fragmentsFrom] at read
  have found : names (fragments (s ++ '@' :: name)) = ['@' :: name] := by
    rw [fragments, read, names, List.filterMap_append, literals_unnamed]
    rfl
  have position : positional ['@' :: name] (.placeholder ('@' :: name)) = "?1".toList := by
    rw [positional, List.idxOf_cons_self]
    rfl
  rw [number, found, fragments, read, List.flatMap_append, text_of_literals,
    List.flatMap_singleton, position]

end Sql
end SqlPipeline
