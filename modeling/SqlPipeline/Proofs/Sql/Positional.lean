import Mathlib.Data.List.Chain
import Mathlib.Data.List.Nodup
import SqlPipeline.Proofs.Sql.BareMark
import SqlPipeline.Proofs.Sql.Filling
import SqlPipeline.Proofs.Sql.KeyPredicate

/-!
Texts whose placeholders are bare marks. Naming the marks fills in a name for each, and numbering the
names fills in a number for each, so that a text comes out with its marks numbered from one whatever
number the names started from. No row is given by key in such a text, for a key column is quoted.
-/

namespace SqlPipeline
namespace Sql

/-- A text without quotes whose placeholders are bare marks, none with a word character after it. -/
structure IsPositional (sql : Text) : Prop where
  unquoted : ∀ c ∈ sql, ¬IsQuote c
  unnamed : '@' ∉ sql
  marked : sql.IsChain fun c next => c = '?' -> Text.isWordChar next = false

def positionMark (position : Nat) : Text :=
  '?' :: Text.decimal position

/-- A text with its marks numbered from one. -/
def positioned (s : Text) : Text :=
  fill positionMark 1 s

/-- How a text is read when its marks are named from an index on. -/
def readFrom : Nat -> Text -> List Fragment
  | _, [] => []
  | index, c :: rest =>
      if c = '?' then .placeholder (facadeName index) :: readFrom (index + 1) rest
      else .literal c :: readFrom index rest

section Characters

variable {c : Char}

/-- Each run of ten digits lies within a range of word characters. -/
theorem digits_within : (Text.zeros.all fun first =>
    Text.alphanumericRanges.any fun r => r.1.ble first && (first + 9).ble r.2) = true := by
  decide +kernel

/-- A digit lies in the run of ten that one of the zeros starts. -/
theorem digit_in_run {starts : List Nat} (digit : (Text.digitFrom? c starts).isSome = true) :
    ∃ first ∈ starts, first ≤ c.toNat ∧ c.toNat < first + 10 := by
  induction starts with
  | nil => cases digit
  | cons first later ih =>
      rw [Text.digitFrom?] at digit
      split_ifs at digit with bounds
      · exact ⟨first, List.mem_cons_self, bounds⟩
      · obtain ⟨other, member, inside⟩ := ih digit
        exact ⟨other, List.mem_cons_of_mem first member, inside⟩

/-- The digits of every script are word characters. -/
theorem word_of_digit (digit : Text.isDigit c = true) : Text.isWordChar c = true := by
  obtain ⟨first, member, lower, upper⟩ := digit_in_run digit
  obtain ⟨r, other, bounds⟩ := List.any_eq_true.mp (List.all_eq_true.mp digits_within first member)
  have letter : Text.inRanges Text.alphanumericRanges c = true := by
    rw [Text.inRanges, List.any_eq_true]
    refine ⟨r, other, ?_⟩
    simp only [Bool.and_eq_true, decide_eq_true_eq, Nat.ble_eq] at bounds ⊢
    omega
  simp [Text.isWordChar, Text.isAlphanumeric, letter]

theorem not_ascii_word (other : Text.isWordChar c = false) : Text.isAsciiWordChar c = false := by
  by_contra ascii
  rw [word_of_ascii (by simpa using ascii)] at other
  cases other

end Characters

/-- A word of ASCII behind a mark is inert if the mark is. -/
theorem marked_word_inert {mark : Char} {word : Text} (inert : IsInert [mark])
    (ascii : ∀ c ∈ word, Text.isAsciiWordChar c = true) : IsInert (mark :: word) := by
  have each {P : Char -> Prop} (own : P mark) (others : ∀ c, Text.isAsciiWordChar c = true -> P c) :
      ∀ c ∈ mark :: word, P c := by
    intro c member
    rcases List.mem_cons.mp member with rfl | behind
    · exact own
    · exact others c (ascii c behind)
  refine ⟨List.cons_ne_nil _ _, ?_, ?_, ?_⟩
  · refine each (inert.unquoted mark List.mem_cons_self) ?_
    rintro c word (rfl | rfl)
    · exact absurd word (by decide)
    · exact absurd word (by decide)
  · refine fun member => each (P := fun c => c ≠ ';') ?_ ?_ _ member rfl
    · exact fun same => inert.uncut (same ▸ List.mem_cons_self)
    · rintro c word rfl
      exact absurd word (by decide)
  · exact each (inert.solid mark List.mem_cons_self) fun c word => word_not_blank (word_of_ascii word)

theorem facade_name_inert (index : Nat) : IsInert (facadeName index) :=
  marked_word_inert ⟨by decide, by decide, by decide, by decide⟩ (facade_name_word index)

namespace IsPositional

variable {before s after : Text} {c : Char}

theorem inside (positional : IsPositional (before ++ (s ++ after))) : IsPositional s := by
  have infixed : s <:+: before ++ (s ++ after) := ⟨before, after, List.append_assoc _ _ _⟩
  exact ⟨fun c member => positional.unquoted c (infixed.subset member),
    fun member => positional.unnamed (infixed.subset member), positional.marked.infix infixed⟩

theorem tail (positional : IsPositional (c :: s)) : IsPositional s := by
  have whole : IsPositional ([c] ++ (s ++ [])) := by rwa [List.append_nil]
  exact whole.inside

theorem mark_stops (positional : IsPositional ('?' :: s)) :
    ∀ c ∈ s.head?, Text.isWordChar c = false :=
  fun c head => (List.isChain_cons.mp positional.marked).1 c head rfl

theorem mark (positional : IsPositional ('?' :: s)) : isMark '?' s = true := by
  have stop : Text.startsWithDigit s = false := by
    cases s with
    | nil => rfl
    | cons c s =>
        by_contra digit
        have other := positional.mark_stops c rfl
        rw [word_of_digit (by simpa [Text.startsWithDigit] using digit)] at other
        cases other
  rw [isMark, stop]
  rfl

/-- The statements of a positional text are positional. -/
theorem statement {sql statement : Text} (positional : IsPositional sql)
    (member : statement ∈ split sql) : IsPositional statement := by
  obtain ⟨earlier, later, cut⟩ := List.append_of_mem member
  obtain ⟨before, after, rfl, -⟩ := split_stands cut
  exact positional.inside

end IsPositional

section Names

variable {s : Text} {index : Nat}

theorem name_eq_fill (positional : IsPositional s) (index : Nat) :
    nameFrom index s = fill facadeName index s := by
  induction s generalizing index with
  | nil => rfl
  | cons c s ih =>
      by_cases mark : c = '?'
      · subst mark
        rw [name_mark positional.mark, fill_mark, ih positional.tail]
      · have other : isMark c s = false := by simp [isMark, mark]
        rw [name_other other, fill_other mark, ih positional.tail]

theorem fill_stops (positional : IsPositional ('?' :: s)) :
    ∀ c ∈ (fill facadeName index s).head?, Text.isAsciiWordChar c = false := by
  rw [← name_eq_fill positional.tail]
  intro c head
  rcases named_head index s c head with rfl | own
  · decide
  · exact not_ascii_word (positional.mark_stops c own)

theorem fragments_fill (positional : IsPositional s) (index : Nat) :
    fragments (fill facadeName index s) = readFrom index s := by
  rw [fragments]
  induction s generalizing index with
  | nil => rw [fill, fragmentsFrom, readFrom]
  | cons c s ih =>
      by_cases mark : c = '?'
      · subst mark
        have named := fragments_of_name (List.cons_ne_nil 'p' (Text.decimal index))
          (facade_name_word index) (fill facadeName (index + 1) s) (fill_stops positional)
        rw [fill_mark, readFrom, if_pos rfl, ← ih positional.tail]
        exact named
      · have plain : ¬IsQuote c := positional.unquoted c List.mem_cons_self
        have state : Quoting.bare.step c = .bare :=
          Quoting.step_plain (fun same => plain (.inl same)) fun same => plain (.inr same)
        have unnamed : c ≠ '@' := fun same => positional.unnamed (by simp [same])
        rw [fill_other mark, fragmentsFrom, if_neg fun placeholder => unnamed placeholder.1, state,
          ih positional.tail, readFrom, if_neg mark]

theorem read_names (index : Nat) (s : Text) :
    (readFrom index s).filterMap Fragment.name? =
      (List.range' index (s.count '?')).map facadeName := by
  induction s generalizing index with
  | nil => rfl
  | cons c s ih =>
      by_cases mark : c = '?'
      · subst mark
        rw [readFrom, if_pos rfl, List.count_cons_self, List.range'_succ, List.map_cons, ← ih]
        rfl
      · rw [readFrom, if_neg mark, List.count_cons_of_ne mark, ← ih]
        rfl

theorem read_positions (found : List Text) (index : Nat) (s : Text) :
    (readFrom index s).flatMap (positional found) =
      fill (fun index => positionMark (found.idxOf (facadeName index) + 1)) index s := by
  induction s generalizing index with
  | nil => rfl
  | cons c s ih =>
      by_cases mark : c = '?'
      · subst mark
        rw [readFrom, if_pos rfl, fill_mark, List.flatMap_cons, ih]
        rfl
      · rw [readFrom, if_neg mark, fill_other mark, List.flatMap_cons, ih]
        rfl

end Names

section Numbers

variable {s : Text}

theorem erase_distinct {names : List Text} (distinct : names.Nodup) : names.eraseDups = names := by
  induction names with
  | nil => rfl
  | cons name later ih =>
      obtain ⟨absent, rest⟩ := List.nodup_cons.mp distinct
      have kept : (later.filter fun other => !other == name) = later := by
        rw [List.filter_eq_self]
        intro other member
        have differs : other ≠ name := fun same => absent (same ▸ member)
        simp [differs]
      rw [List.eraseDups_cons, kept, ih rest]

theorem facade_names_distinct (index count : Nat) :
    ((List.range' index count).map facadeName).Nodup := by
  have positions : (List.range' index count).Nodup := List.nodup_range'
  exact List.Nodup.map facade_name_injective positions

/-- A name has the number of its mark among the marks of its own text. -/
theorem position_of_name {first count index : Nat} (below : index < count) :
    ((List.range' first count).map facadeName).idxOf (facadeName (first + index)) = index := by
  have size : index < ((List.range' first count).map facadeName).length := by
    simpa using below
  have own : ((List.range' first count).map facadeName)[index] = facadeName (first + index) := by
    simp
  rw [← own]
  exact (facade_names_distinct first count).idxOf_getElem index size

/-- A text whose marks are named from any number on is numbered from one on, and its names are
those of its marks in order. -/
theorem number_fill (positional : IsPositional s) (index : Nat) :
    number (fill facadeName index s) =
      ⟨positioned s, (List.range' index (s.count '?')).map facadeName⟩ := by
  have found : names (fragments (fill facadeName index s)) =
      (List.range' index (s.count '?')).map facadeName := by
    rw [names, fragments_fill positional, read_names]
    exact erase_distinct (facade_names_distinct _ _)
  rw [number, found, fragments_fill positional, read_positions, positioned]
  congr 1
  apply fill_congr
  intro position below
  rw [position_of_name below, Nat.add_comm]

end Numbers

/-- Without quotes no row is given by key. -/
theorem keyless {sql : Text} (unquoted : '"' ∉ sql) : KeyPredicate.find? sql = none := by
  rw [Option.eq_none_iff_forall_ne_some]
  intro predicate found
  obtain ⟨before, rest, rfl, ⟨opens, -⟩⟩ := KeyPredicate.find_iff.mp found
  obtain ⟨-, -, named, -⟩ := opens
  obtain ⟨c, column, rfl, quote, -⟩ := List.map_eq_cons_iff.mp named
  apply unquoted
  rw [← quote_of_fold quote]
  simp

end Sql
end SqlPipeline
