import SqlPipeline.Proofs.Sql.Numbering
import SqlPipeline.Proofs.Sql.Splitting

/-!
What a literal says makes no difference. A script is numbered and split around a literal in the same
way for every content: semicolons, marks and quotes in it end no statement, add no name and change
no position.
-/

namespace SqlPipeline
namespace Sql

variable {quote : Char} {before : Text}

theorem literal_last (content : Text) : (literal quote content).getLast? = some quote :=
  List.getLast?_concat

theorem quote_not_blank (isQuote : IsQuote quote) : Text.isBlank quote = false := by
  rcases isQuote with rfl | rfl <;> decide

theorem quote_not_word (isQuote : IsQuote quote) : Text.isAsciiWordChar quote = false := by
  rcases isQuote with rfl | rfl <;> decide

/-- A literal is read as it stands, between what is read before it and what is read after it. -/
theorem fragments_around_literal (isQuote : IsQuote quote)
    (bare : Quoting.bare.run before = .bare) (content after : Text) :
    fragments (before ++ literal quote content ++ after) =
      fragments before ++ ((literal quote content).map .literal ++ fragments after) := by
  have other : '@' ≠ quote := by rcases isQuote with rfl | rfl <;> decide
  have stop : ∀ c ∈ (literal quote content ++ after).head?, Text.isAsciiWordChar c = false := by
    intro c head
    cases head
    exact quote_not_word isQuote
  rw [fragments, List.append_assoc, fragments_append .bare before stop, bare,
    fragments_of_hidden (literal_hides isQuote other content), literal_run isQuote]
  rfl

theorem number_around_literal (isQuote : IsQuote quote)
    (bare : Quoting.bare.run before = .bare) (content after : Text) :
    number (before ++ literal quote content ++ after) =
      ⟨(fragments before).flatMap (positional (names (fragments before ++ fragments after))) ++
          literal quote content ++
          (fragments after).flatMap (positional (names (fragments before ++ fragments after))),
        names (fragments before ++ fragments after)⟩ := by
  have read := fragments_around_literal isQuote bare content after
  have found : names (fragments (before ++ literal quote content ++ after)) =
      names (fragments before ++ fragments after) := by
    rw [read]
    simp only [names, List.filterMap_append, literals_unnamed, List.nil_append]
  rw [number, found, read, List.flatMap_append, List.flatMap_append, text_of_literals,
    List.append_assoc]

theorem trim_around_literal (isQuote : IsQuote quote) (before content after : Text) :
    Text.trim (before ++ (literal quote content ++ after)) =
      Text.trimStart before ++ literal quote content ++ Text.trimEnd after := by
  have solid := quote_not_blank isQuote
  have head : ∀ c ∈ (literal quote content ++ after).head?, Text.isBlank c = false := by
    intro c head
    cases head
    exact solid
  have last : ∀ c ∈ (Text.trimStart before ++ literal quote content).getLast?,
      Text.isBlank c = false := by
    intro c last
    rw [List.getLast?_append, literal_last] at last
    cases last
    exact solid
  rw [Text.trim, Text.trim_start_append before head, ← List.append_assoc,
    Text.trim_end_append last]

theorem not_void_of_literal (isQuote : IsQuote quote) (start content rest : Text) :
    isVoid (start ++ literal quote content ++ rest) = false := by
  have inside : quote ∈ start ++ literal quote content ++ rest := by simp [literal]
  have other : quote ≠ ';' := by rcases isQuote with rfl | rfl <;> decide
  simp only [isVoid, Bool.or_eq_false_iff, decide_eq_false_iff_not]
  constructor
  · intro empty
    simp [empty] at inside
  · intro lone
    exact other (List.mem_singleton.mp (lone ▸ inside))

/-- A literal belongs to the piece that is open before it, and that piece goes on after it. -/
theorem split_around_literal {closed : List Text} {last : Text} (isQuote : IsQuote quote)
    (each : ∀ piece ∈ closed, IsClosed piece) (hidden : Quoting.bare.Hides ';' last)
    (bare : Quoting.bare.run last = .bare) (content after : Text) :
    split (closed.flatten ++ last ++ literal quote content ++ after) =
      statements closed ++
        [Text.trimStart last ++ literal quote content ++ Text.trimEnd (cutFrom .bare after).1] ++
          statements (cutFrom .bare after).2 := by
  have other : ';' ≠ quote := by rcases isQuote with rfl | rfl <;> decide
  have open_piece : cutFrom .bare (last ++ (literal quote content ++ after)) =
      (last ++ (literal quote content ++ (cutFrom .bare after).1), (cutFrom .bare after).2) := by
    rw [cut_of_hidden hidden, bare, cut_of_hidden (literal_hides isQuote other content),
      literal_run isQuote]
  have whole : pieces (closed.flatten ++ last ++ literal quote content ++ after) =
      closed ++ [last ++ (literal quote content ++ (cutFrom .bare after).1)] ++
        (cutFrom .bare after).2 := by
    rw [List.append_assoc, List.append_assoc, pieces_of_parts each, pieces, open_piece,
      List.append_assoc]
    rfl
  have trimmed := trim_around_literal isQuote last content (cutFrom .bare after).1
  have kept := not_void_of_literal isQuote (Text.trimStart last) content
    (Text.trimEnd (cutFrom .bare after).1)
  rw [← trimmed] at kept
  change statements (pieces _) = _
  rw [whole, statements_append, statements_append, statements_alone kept, trimmed]

/-- The numbers, the names and the cuts around a literal do not depend on what it says. -/
theorem literal_inert {after : Text} (isQuote : IsQuote quote)
    (bare : Quoting.bare.run before = .bare) :
    (∃ (start rest : Text) (found : List Text), ∀ content,
      number (before ++ literal quote content ++ after) =
        ⟨start ++ literal quote content ++ rest, found⟩) ∧
    ∃ (earlier later : List Text) (start rest : Text), ∀ content,
      split (before ++ literal quote content ++ after) =
        earlier ++ [start ++ literal quote content ++ rest] ++ later := by
  constructor
  · exact ⟨_, _, _, fun content => number_around_literal isQuote bare content after⟩
  · obtain ⟨closed, last, each, hidden, rfl⟩ := exists_parts before
    rw [Quoting.run_append, closed_run each] at bare
    exact ⟨_, _, _, _, fun content => split_around_literal isQuote each hidden bare content after⟩

/-- A literal between two uses of one name, in the second of three statements. -/
theorem literal_inert_after_name :
    IsQuote '\'' ∧ Quoting.bare.run "DELETE FROM a; UPDATE t SET a = @b || " = .bare ∧
    (∃ (start rest : Text) (found : List Text), ∀ content,
      number ("DELETE FROM a; UPDATE t SET a = @b || ".toList ++ literal '\'' content ++
          " WHERE c = @b; SELECT 1".toList) =
        ⟨start ++ literal '\'' content ++ rest, found⟩) ∧
    ∃ (earlier later : List Text) (start rest : Text), ∀ content,
      split ("DELETE FROM a; UPDATE t SET a = @b || ".toList ++ literal '\'' content ++
          " WHERE c = @b; SELECT 1".toList) =
        earlier ++ [start ++ literal '\'' content ++ rest] ++ later := by
  have isQuote : IsQuote '\'' := .inl rfl
  have bare : Quoting.bare.run "DELETE FROM a; UPDATE t SET a = @b || " = .bare := by decide
  exact ⟨isQuote, bare, literal_inert isQuote bare⟩

end Sql
end SqlPipeline
