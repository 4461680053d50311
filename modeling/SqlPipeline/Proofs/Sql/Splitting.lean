import Mathlib.Data.List.Induction
import SqlPipeline.Proofs.Sql.Quotation
import SqlPipeline.Proofs.Text.Cut
import SqlPipeline.Sql.Statement

/-!
How a script is cut into statements. The cuts are the semicolons outside quotes, and the statements
are the pieces between them in their order. A piece that ends with its only cut leaves the quotes
closed, so that it is split in the same way whatever comes after it.
-/

namespace SqlPipeline
namespace Sql

/-- The positions of the semicolons that stand outside quotes. -/
def cutsFrom (quoting : Quoting) (s : Text) : List Nat :=
  (List.range s.length).filter fun position =>
    s[position]? = some ';' ∧ quoting.run (s.take position) = .bare

def cuts (sql : Text) : List Nat :=
  cutsFrom .bare sql

/-- The pieces from a position on: each goes up to and with the next cut, the last is what remains. -/
def between (sql : Text) : Nat -> List Nat -> List Text
  | start, [] => [sql.drop start]
  | start, cut :: later => (sql.take (cut + 1)).drop start :: between sql (cut + 1) later

/-- A piece whose last character is its only semicolon outside quotes. -/
def IsClosed (piece : Text) : Prop :=
  ∃ body, piece = body ++ [';'] ∧ Quoting.bare.Hides ';' body ∧ Quoting.bare.run body = .bare

section Cuts

variable (c : Char) (s : Text)

theorem cuts_cons (quoting : Quoting) :
    cutsFrom quoting (c :: s) =
      (if c = ';' ∧ quoting = .bare then [0] else []) ++
        (cutsFrom (quoting.step c) s).map (· + 1) := by
  have later : ∀ position, ((c :: s)[position + 1]? = some ';' ∧
      quoting.run ((c :: s).take (position + 1)) = .bare) ↔
        (s[position]? = some ';' ∧ (quoting.step c).run (s.take position) = .bare) := by
    intro position
    rw [List.getElem?_cons_succ, List.take_succ_cons, Quoting.run_cons]
  rw [cutsFrom, List.length_cons, List.range_succ_eq_map, List.filter_cons, List.filter_map]
  simp only [Function.comp_def, Nat.succ_eq_add_one, later]
  by_cases cut : c = ';' ∧ quoting = .bare
  · simp [cut, cutsFrom]
  · simp [cut, cutsFrom]

theorem between_shift (start : Nat) (positions : List Nat) :
    between (c :: s) (start + 1) (positions.map (· + 1)) = between s start positions := by
  induction positions generalizing start with
  | nil => simp [between]
  | cons cut later ih => simp [between, ih]

theorem between_prepend (positions : List Nat) :
    between (c :: s) 0 (positions.map (· + 1)) = (between s 0 positions).modifyHead (c :: ·) := by
  cases positions with
  | nil => simp [between]
  | cons cut later => simp [between, between_shift]

theorem between_cuts (quoting : Quoting) :
    between s 0 (cutsFrom quoting s) = (cutFrom quoting s).1 :: (cutFrom quoting s).2 := by
  induction s generalizing quoting with
  | nil => rfl
  | cons c s ih =>
      rw [cuts_cons, cutFrom]
      by_cases cut : c = ';' ∧ quoting = .bare
      · rw [if_pos cut, if_pos cut, List.singleton_append, between]
        rw [between_shift c s 0, ih]
        rfl
      · rw [if_neg cut, if_neg cut, List.nil_append, between_prepend, ih]
        rfl

end Cuts

section Pieces

variable {quoting : Quoting} {s piece : Text}

/-- A text without a cut in it belongs to one piece, together with what follows up to the next cut. -/
theorem cut_of_hidden (hidden : quoting.Hides ';' s) (rest : Text) :
    cutFrom quoting (s ++ rest) =
      (s ++ (cutFrom (quoting.run s) rest).1, (cutFrom (quoting.run s) rest).2) := by
  induction s generalizing quoting with
  | nil => rfl
  | cons c s ih =>
      obtain ⟨head, later⟩ := hidden
      have uncut : ¬(c = ';' ∧ quoting = .bare) := fun cut => head cut.2 cut.1
      rw [List.cons_append, cutFrom, if_neg uncut, ih later]
      rfl

theorem pieces_of_hidden (hidden : Quoting.bare.Hides ';' s) : pieces s = [s] := by
  have whole := cut_of_hidden hidden []
  rw [List.append_nil, cutFrom, List.append_nil] at whole
  rw [pieces, whole]

/-- After a closed piece the next one starts outside quotes, as at the start of a text. -/
theorem pieces_of_closed (closed : IsClosed piece) (rest : Text) :
    pieces (piece ++ rest) = piece :: pieces rest := by
  obtain ⟨body, rfl, hidden, bare⟩ := closed
  rw [pieces, List.append_assoc, cut_of_hidden hidden, bare]
  rfl

theorem pieces_of_parts {closed : List Text} (each : ∀ piece ∈ closed, IsClosed piece)
    (rest : Text) : pieces (closed.flatten ++ rest) = closed ++ pieces rest := by
  induction closed with
  | nil => rfl
  | cons piece closed ih =>
      rw [List.flatten_cons, List.append_assoc, pieces_of_closed (each piece List.mem_cons_self),
        ih fun next member => each next (List.mem_cons_of_mem piece member)]
      rfl

theorem closed_run {closed : List Text} (each : ∀ piece ∈ closed, IsClosed piece) :
    Quoting.bare.run closed.flatten = .bare := by
  induction closed with
  | nil => rfl
  | cons piece closed ih =>
      obtain ⟨body, rfl, _, bare⟩ := each piece List.mem_cons_self
      have later := ih fun next member => each next (List.mem_cons_of_mem _ member)
      rw [List.flatten_cons, Quoting.run_append, Quoting.run_append, bare]
      exact later

/-- Every text is a number of closed pieces and a rest without a cut. The induction reads the text
from its start, and the next character either closes the rest or makes it longer. -/
theorem exists_parts (sql : Text) :
    ∃ (closed : List Text) (last : Text), (∀ piece ∈ closed, IsClosed piece) ∧
      Quoting.bare.Hides ';' last ∧
      sql = closed.flatten ++ last := by
  induction sql using List.reverseRecOn with
  | nil => exact ⟨[], [], by simp, trivial, rfl⟩
  | append_singleton s c ih =>
      obtain ⟨closed, last, each, hidden, rfl⟩ := ih
      by_cases cut : Quoting.bare.run last = .bare ∧ c = ';'
      · refine ⟨closed ++ [last ++ [c]], [], ?_, trivial, by simp⟩
        intro piece member
        rcases List.mem_append.mp member with earlier | new
        · exact each piece earlier
        · rw [List.mem_singleton.mp new]
          exact ⟨last, by rw [cut.2], hidden, cut.1⟩
      · refine ⟨closed, last ++ [c], each, ?_, by simp⟩
        apply Quoting.hides_append.mpr
        exact ⟨hidden, fun bare same => cut ⟨bare, same⟩, trivial⟩

end Pieces

section Trimming

variable {s piece : Text}

theorem blanks_hide {before : Text} (blank : ∀ c ∈ before, Text.isBlank c = true)
    (quoting : Quoting) : quoting.Hides ';' before :=
  Quoting.hides_of_absent fun member => absurd (blank ';' member) (by decide)

theorem trim_hidden (hidden : Quoting.bare.Hides ';' s) :
    Quoting.bare.Hides ';' (Text.trim s) := by
  obtain ⟨before, after, blank, _, cut⟩ := Text.trim_cut s
  rw [cut, Quoting.hides_append, blanks_run blank, Quoting.hides_append] at hidden
  exact hidden.2.1

theorem trim_closed (closed : IsClosed piece) : IsClosed (Text.trim piece) := by
  obtain ⟨body, rfl, hidden, bare⟩ := closed
  have before : ∀ c ∈ body.takeWhile Text.isBlank, Text.isBlank c = true :=
    fun c => List.mem_takeWhile_imp
  have cut : body.takeWhile Text.isBlank ++ Text.trimStart body = body :=
    List.takeWhile_append_dropWhile
  rw [← cut, Quoting.hides_append, blanks_run before] at hidden
  rw [← cut, Quoting.run_append, blanks_run before] at bare
  refine ⟨Text.trimStart body, ?_, hidden.2, bare⟩
  rw [Text.trim, Text.trim_start_append body (by decide)]
  apply Text.trim_end_of_last
  intro c last
  rw [List.getLast?_concat, Option.mem_some] at last
  rw [← last]
  decide

end Trimming

section Statements

/-- The statements that pieces come to. -/
def statements (pieces : List Text) : List Text :=
  (pieces.map Text.trim).filter fun statement => !isVoid statement

variable {s statement : Text}

theorem statements_append (earlier later : List Text) :
    statements (earlier ++ later) = statements earlier ++ statements later := by
  simp [statements]

theorem mem_statements {pieces : List Text} :
    statement ∈ statements pieces ↔
      isVoid statement = false ∧ ∃ piece ∈ pieces, Text.trim piece = statement := by
  simp [statements, and_comm]

theorem statements_alone (kept : isVoid (Text.trim s) = false) :
    statements [s] = [Text.trim s] := by
  simp [statements, kept]

theorem split_append_of_closed (closed : IsClosed s) (rest : Text) :
    split (s ++ rest) = split s ++ split rest := by
  have alone : pieces s = [s] ++ pieces [] := by
    simpa using pieces_of_closed closed []
  have whole : pieces (s ++ rest) = [s] ++ pieces rest := pieces_of_closed closed rest
  have none : statements (pieces []) = [] := rfl
  change statements (pieces (s ++ rest)) = statements (pieces s) ++ statements (pieces rest)
  rw [alone, whole, statements_append, statements_append, none, List.append_nil]

theorem split_of_blanks {before : Text} (blank : ∀ c ∈ before, Text.isBlank c = true) (rest : Text) :
    split (before ++ rest) = split rest := by
  have first : cutFrom .bare (before ++ rest) =
      (before ++ (cutFrom .bare rest).1, (cutFrom .bare rest).2) := by
    rw [cut_of_hidden (blanks_hide blank _), blanks_run blank]
  rw [split, split, pieces, pieces, first, List.map_cons, List.map_cons, Text.trim,
    Text.trim_start_of_blanks blank, ← Text.trim]

theorem split_of_parts {closed : List Text} {last : Text} (each : ∀ piece ∈ closed, IsClosed piece)
    (hidden : Quoting.bare.Hides ';' last) :
    split (closed.flatten ++ last) = statements closed ++ statements [last] := by
  change statements (pieces (closed.flatten ++ last)) = _
  rw [pieces_of_parts each, pieces_of_hidden hidden, statements_append]

theorem split_of_closed (closed : IsClosed s) (trimmed : Text.trim s = s)
    (kept : isVoid s = false) : split s = [s] := by
  have each : ∀ piece ∈ [s], IsClosed piece := by simpa using closed
  have empty : Quoting.bare.Hides ';' [] := trivial
  have parts := split_of_parts each empty
  rwa [List.flatten_singleton, List.append_nil, statements_alone (by rwa [trimmed]), trimmed] at parts

theorem split_of_hidden (hidden : Quoting.bare.Hides ';' s) (trimmed : Text.trim s = s)
    (kept : isVoid s = false) : split s = [s] := by
  change statements (pieces s) = [s]
  rw [pieces_of_hidden hidden, statements_alone (by rwa [trimmed]), trimmed]

/-- What is split off is split no further. -/
theorem split_of_statement {closed : List Text} {last : Text}
    (each : ∀ piece ∈ closed, IsClosed piece) (hidden : Quoting.bare.Hides ';' last) :
    (∀ s ∈ statements closed, IsClosed s ∧ split s = [s]) ∧
      ∀ s ∈ statements [last], split s = [s] := by
  constructor
  · intro s member
    obtain ⟨kept, piece, inside, rfl⟩ := mem_statements.mp member
    have stays := trim_closed (each piece inside)
    exact ⟨stays, split_of_closed stays (Text.trim_trim piece) kept⟩
  · intro s member
    obtain ⟨kept, piece, inside, rfl⟩ := mem_statements.mp member
    rw [List.mem_singleton.mp inside] at kept ⊢
    exact split_of_hidden (trim_hidden hidden) (Text.trim_trim last) kept

/-- Closed statements and at most one after them, joined by blanks, are split into the same. -/
theorem split_joined {closed last : List Text} (each : ∀ s ∈ closed, IsClosed s ∧ split s = [s])
    (alone : ∀ s ∈ last, split s = [s]) (most : last.length ≤ 1) :
    split (List.intercalate [' '] (closed ++ last)) = closed ++ last := by
  induction closed with
  | nil =>
      match last with
      | [] => rfl
      | [s] =>
          rw [List.nil_append, List.intercalate_singleton]
          exact alone s List.mem_cons_self
  | cons s closed ih =>
      have later := ih fun next member => each next (List.mem_cons_of_mem s member)
      obtain ⟨ends, same⟩ := each s List.mem_cons_self
      have blank : ∀ c ∈ [' '], Text.isBlank c = true := by decide
      rw [List.cons_append]
      cases rest : closed ++ last with
      | nil =>
          rw [List.intercalate_singleton]
          exact same
      | cons next others =>
          have joined : List.intercalate [' '] (s :: next :: others) =
              s ++ ([' '] ++ List.intercalate [' '] (next :: others)) := by
            rw [List.intercalate_cons_cons, List.append_assoc]
          rw [rest] at later
          rw [joined, split_append_of_closed ends, split_of_blanks blank, same, later]
          rfl

end Statements

/-- The statements of a script are the pieces between its cuts, trimmed and without the void ones;
the pieces make up the script, each statement is split no further, and the statements joined by
blanks are split into the same statements. -/
theorem split_at_cuts (sql : Text) :
    split sql = ((between sql 0 (cuts sql)).map Text.trim).filter
        (fun statement => statement ≠ [] ∧ statement ≠ [';']) ∧
      (between sql 0 (cuts sql)).flatten = sql ∧
      (∀ statement ∈ split sql, split statement = [statement]) ∧
      split (List.intercalate [' '] (split sql)) = split sql := by
  have cut : between sql 0 (cuts sql) = pieces sql := between_cuts sql .bare
  obtain ⟨closed, last, each, hidden, parts⟩ := exists_parts sql
  have split_eq : split sql = statements closed ++ statements [last] := by
    rw [parts, split_of_parts each hidden]
  obtain ⟨closedAlone, lastAlone⟩ := split_of_statement each hidden
  refine ⟨?_, ?_, ?_, ?_⟩
  · rw [cut, split]
    simp [isVoid]
  · rw [cut, pieces_flatten]
  · intro statement member
    rw [split_eq, List.mem_append] at member
    rcases member with earlier | final
    · exact (closedAlone statement earlier).2
    · exact lastAlone statement final
  · have most : (statements [last]).length ≤ 1 := List.length_filter_le _ _
    rw [split_eq]
    exact split_joined closedAlone lastAlone most

/-- A quoted semicolon, a void piece and a quote that is never closed. -/
def unevenScript : Text := "SELECT ';' ;  ; SELECT \"a; "

theorem split_at_cuts_uneven :
    "SELECT \"a;".toList ∈ split unevenScript ∧ split "SELECT \"a;" = ["SELECT \"a;".toList] := by
  have member : "SELECT \"a;".toList ∈ split unevenScript := by decide
  exact ⟨member, (split_at_cuts unevenScript).2.2.1 _ member⟩

end Sql
end SqlPipeline
