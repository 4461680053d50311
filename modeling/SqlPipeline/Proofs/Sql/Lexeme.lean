import SqlPipeline.Proofs.Text.Cut
import SqlPipeline.Proofs.Text.LetterCase
import SqlPipeline.Sql.KeyPredicate

/-!
The smallest forms of a statement: keywords in any letter case, runs of blanks, words and marks. For
each form the reader takes it off the start of a text exactly when the text starts with it.
-/

namespace SqlPipeline
namespace Sql

def IsBlanks (s : Text) : Prop :=
  ∀ c ∈ s, Text.isBlank c = true

/-- A run of at least one blank. -/
def IsGap (s : Text) : Prop :=
  s ≠ [] ∧ IsBlanks s

def IsWord (s : Text) : Prop :=
  s ≠ [] ∧ ∀ c ∈ s, Text.isWordChar c = true

/-- A text does not start with a blank. -/
def IsSolid (s : Text) : Prop :=
  ∀ c ∈ s.head?, Text.isBlank c = false

instance (s : Text) : Decidable (IsSolid s) :=
  inferInstanceAs (Decidable (∀ c ∈ s.head?, Text.isBlank c = false))

/-- A text does not start with a word character. -/
def EndsWord (s : Text) : Prop :=
  ∀ c ∈ s.head?, Text.isWordChar c = false

instance (s : Text) : Decidable (IsBlanks s) :=
  inferInstanceAs (Decidable (∀ c ∈ s, Text.isBlank c = true))

instance (s : Text) : Decidable (IsGap s) :=
  inferInstanceAs (Decidable (s ≠ [] ∧ IsBlanks s))

instance (s : Text) : Decidable (IsWord s) :=
  inferInstanceAs (Decidable (s ≠ [] ∧ ∀ c ∈ s, Text.isWordChar c = true))

/-- The letters of a keyword stand somewhere in a text, in any letter case. -/
def Mentions (keyword s : Text) : Prop :=
  keyword <:+: s.map Char.toLower

instance (keyword s : Text) : Decidable (Mentions keyword s) :=
  inferInstanceAs (Decidable (keyword <:+: s.map Char.toLower))

structure Blanks where
  text : Text
  blank : IsBlanks text

structure Gap where
  text : Text
  blank : IsGap text

/-- A keyword, given in small letters, in some letter case. -/
structure Cased (keyword : Text) where
  text : Text
  spelled : text.map Char.toLower = keyword

section Letters

variable {c letter : Char}

/-- A letter that is small when its case is taken off is that letter also for the reader. -/
theorem fold_of_lower (ascii : Text.isAscii letter = true) (lower : c.toLower = letter) :
    foldLetter c = letter := by
  subst lower
  unfold foldLetter
  split_ifs with dotted long kelvin
  · rcases dotted with rfl | rfl <;> exact absurd ascii (by decide)
  · subst long
    exact absurd ascii (by decide)
  · subst kelvin
    exact absurd ascii (by decide)
  · rfl

theorem Cased.folds {keyword : Text} (word : Cased keyword)
    (ascii : ∀ letter ∈ keyword, Text.isAscii letter = true) :
    word.text.map foldLetter = keyword := by
  have each : word.text.map foldLetter = word.text.map Char.toLower := by
    rw [List.map_inj_left]
    intro c member
    apply fold_of_lower (ascii _ _) rfl
    have letter := List.mem_map_of_mem (f := Char.toLower) member
    rwa [word.spelled] at letter
  rw [each, word.spelled]

/-- Other scripts have letters for i, s and k only. -/
theorem lower_of_fold (other : letter ≠ 'i' ∧ letter ≠ 's' ∧ letter ≠ 'k')
    (fold : foldLetter c = letter) : c.toLower = letter := by
  unfold foldLetter at fold
  split_ifs at fold
  · exact absurd fold.symm other.1
  · exact absurd fold.symm other.2.1
  · exact absurd fold.symm other.2.2
  · exact fold

/-- A quote is read as no other character is. -/
theorem quote_of_fold (fold : foldLetter c = '"') : c = '"' := by
  have lower : c.toLower = '"' := lower_of_fold (by decide) fold
  by_cases ascii : c.toNat < 128
  · exact Text.ascii_cases (P := fun c => c.toLower = '"' -> c = '"') (by decide) ascii lower
  · rwa [Text.lower_of_code (by omega)] at lower

end Letters

section Classes

variable {c : Char}

theorem in_ranges_apart {first second : Text.Ranges}
    (apart : first.all fun r => second.all fun q => r.2 < q.1 || q.2 < r.1)
    (inside : Text.inRanges first c = true) : Text.inRanges second c = false := by
  rw [Text.inRanges, List.any_eq_true] at inside
  obtain ⟨r, member, bounds⟩ := inside
  rw [Text.inRanges, List.any_eq_false]
  intro q other
  have gap := List.all_eq_true.mp (List.all_eq_true.mp apart r member) q other
  simp only [Bool.or_eq_true, Bool.and_eq_true, decide_eq_true_eq] at gap bounds ⊢
  omega

theorem ascii_word_code (ascii : Text.isAsciiWordChar c = true) :
    0x30 ≤ c.toNat ∧ c.toNat ≤ 0x7a := by
  simp only [Text.isAsciiWordChar, Bool.or_eq_true, decide_eq_true_eq] at ascii
  rcases ascii with (rfl | letter) | digit
  · decide
  · rcases Bool.or_eq_true_iff.mp letter with upper | lower
    · obtain ⟨first, last⟩ := of_decide_eq_true upper
      have from65 : 0x41 ≤ c.toNat := first
      have upTo90 : c.toNat ≤ 0x5a := last
      omega
    · obtain ⟨first, last⟩ := Bool.and_eq_true_iff.mp lower
      have from97 : 0x61 ≤ c.toNat := of_decide_eq_true first
      exact ⟨Nat.le_trans (by decide) from97, of_decide_eq_true last⟩
  · obtain ⟨lower, upper⟩ := Char.isDigit_iff_toNat.mp digit
    exact ⟨lower, Nat.le_trans upper (by decide)⟩

theorem blank_code (blank : Text.isBlank c = true) : c.toNat ≤ 0x20 ∨ 0x85 ≤ c.toNat := by
  simp [Text.isBlank, Text.inRanges, Text.blankRanges] at blank
  omega

theorem blank_not_word (blank : Text.isBlank c = true) : Text.isWordChar c = false := by
  have code := blank_code blank
  have others : Text.inRanges Text.alphanumericRanges c = false :=
    in_ranges_apart (by decide +kernel) blank
  have ascii : ¬Text.isAsciiWordChar c = true := by
    intro ascii
    have word := ascii_word_code ascii
    omega
  simp only [Text.isAsciiWordChar, Bool.or_eq_true, not_or] at ascii
  simp [Text.isWordChar, Text.isAlphanumeric, others, ascii]

theorem word_not_blank (word : Text.isWordChar c = true) : Text.isBlank c = false := by
  by_contra blank
  rw [blank_not_word (by simpa using blank)] at word
  cases word

theorem word_of_ascii (ascii : Text.isAsciiWordChar c = true) : Text.isWordChar c = true := by
  simp only [Text.isAsciiWordChar, Bool.or_eq_true] at ascii
  simp only [Text.isWordChar, Text.isAlphanumeric, Bool.or_eq_true]
  rcases ascii with (underscore | letter) | digit
  · exact .inl underscore
  · exact .inr (.inl (.inl letter))
  · exact .inr (.inl (.inr digit))

theorem fold_of_blank (blank : Text.isBlank c = true) : foldLetter c = c := by
  have code := blank_code blank
  unfold foldLetter
  split_ifs with dotted long kelvin
  · rcases dotted with rfl | rfl <;> exact absurd blank (by decide)
  · subst long
    exact absurd blank (by decide)
  · subst kelvin
    exact absurd blank (by decide)
  · exact Text.lower_of_code (by omega)

end Classes

section Readers

variable {keyword s rest word : Text} {mark : Char}

theorem after_keyword_iff :
    afterKeyword? keyword s = some rest ↔
      ∃ word, word.map foldLetter = keyword ∧ s = word ++ rest := by
  induction keyword generalizing s with
  | nil =>
      simp [afterKeyword?]
  | cons letter letters ih =>
      constructor
      · intro read
        cases s with
        | nil => cases read
        | cons c s =>
            rw [afterKeyword?] at read
            split_ifs at read with same
            obtain ⟨word, spelled, rfl⟩ := ih.mp read
            exact ⟨c :: word, by rw [List.map_cons, same, spelled], rfl⟩
      · rintro ⟨word, spelled, rfl⟩
        obtain ⟨c, word, rfl, same, spelled⟩ := List.map_eq_cons_iff.mp spelled
        rw [List.cons_append, afterKeyword?, if_pos same]
        exact ih.mpr ⟨word, spelled, rfl⟩

/-- A keyword is read in any letter case. -/
theorem Cased.taken (word : Cased keyword) (ascii : ∀ letter ∈ keyword, Text.isAscii letter = true)
    (rest : Text) : afterKeyword? keyword (word.text ++ rest) = some rest :=
  after_keyword_iff.mpr ⟨word.text, word.folds ascii, rfl⟩

/-- A keyword is not read where another letter stands. -/
theorem after_keyword_none (nonempty : keyword ≠ [])
    (other : s.head?.map foldLetter ≠ keyword.head?) : afterKeyword? keyword s = none := by
  obtain ⟨letter, letters, rfl⟩ := List.exists_cons_of_ne_nil nonempty
  cases s with
  | nil => rfl
  | cons c s =>
      have differs : foldLetter c ≠ letter := by
        intro same
        exact other (congrArg some same)
      rw [afterKeyword?, if_neg differs]

theorem keyword_head (spelled : word.map foldLetter = keyword) (nonempty : keyword ≠ [])
    (rest : Text) : (word ++ rest).head?.map foldLetter = keyword.head? := by
  subst spelled
  cases word with
  | nil => exact absurd rfl nonempty
  | cons c word => rfl

theorem after_char_iff : afterChar? mark s = some rest ↔ s = mark :: rest := by
  cases s with
  | nil => simp [afterChar?]
  | cons c s => simp [afterChar?]

theorem trim_start_iff :
    Text.trimStart s = rest ↔ ∃ blanks, IsBlanks blanks ∧ s = blanks ++ rest ∧ IsSolid rest :=
  Text.drop_while_iff

theorem after_blanks_iff :
    Text.afterBlanks? s = some rest ↔ ∃ gap, IsGap gap ∧ s = gap ++ rest ∧ IsSolid rest := by
  constructor
  · intro read
    cases s with
    | nil => cases read
    | cons c s =>
        rw [Text.afterBlanks?] at read
        split_ifs at read with blank
        obtain ⟨blanks, all, rfl, solid⟩ := trim_start_iff.mp (Option.some.inj read)
        exact ⟨c :: blanks, ⟨by simp, List.forall_mem_cons.mpr ⟨blank, all⟩⟩, rfl, solid⟩
  · rintro ⟨gap, ⟨nonempty, all⟩, rfl, solid⟩
    obtain ⟨c, gap, rfl⟩ := List.exists_cons_of_ne_nil nonempty
    obtain ⟨first, later⟩ := List.forall_mem_cons.mp all
    rw [List.cons_append, Text.afterBlanks?, if_pos first,
      trim_start_iff.mpr ⟨gap, later, rfl, solid⟩]

theorem Gap.taken (gap : Gap) (solid : IsSolid rest) :
    Text.afterBlanks? (gap.text ++ rest) = some rest :=
  after_blanks_iff.mpr ⟨gap.text, gap.blank, rfl, solid⟩

theorem word_iff :
    KeyPredicate.word? s = some (word, rest) ↔ IsWord word ∧ s = word ++ rest ∧ EndsWord rest := by
  rw [KeyPredicate.word?]
  constructor
  · intro read
    split_ifs at read with empty
    cases read
    refine ⟨⟨by simpa using empty, fun c => List.mem_takeWhile_imp⟩,
      List.takeWhile_append_dropWhile.symm, Text.drop_while_head⟩
  · rintro ⟨⟨nonempty, all⟩, rfl, stop⟩
    rw [Text.take_while_run rest all stop, Text.drop_while_run rest all stop,
      if_neg (by simpa using nonempty)]

theorem mark_solid (solid : Text.isBlank mark = false) (s : Text) : IsSolid (mark :: s) := by
  intro c head
  cases head
  exact solid

theorem mark_ends_word (other : Text.isWordChar mark = false) (s : Text) :
    EndsWord (mark :: s) := by
  intro c head
  cases head
  exact other

theorem blanks_end_word {blanks : Text} (blank : IsBlanks blanks) (stop : EndsWord s) :
    EndsWord (blanks ++ s) := by
  cases blanks with
  | nil => exact stop
  | cons c blanks => exact mark_ends_word (blank_not_word (blank c List.mem_cons_self)) _

theorem gap_ends_word {gap : Text} (blank : IsGap gap) (s : Text) : EndsWord (gap ++ s) := by
  obtain ⟨c, gap, rfl⟩ := List.exists_cons_of_ne_nil blank.1
  exact mark_ends_word (blank_not_word (blank.2 c List.mem_cons_self)) _

theorem keyword_solid (spelled : word.map foldLetter = keyword) (nonempty : keyword ≠ [])
    (solid : IsSolid keyword) (s : Text) : IsSolid (word ++ s) := by
  cases word with
  | nil => exact absurd spelled.symm nonempty
  | cons first word =>
      apply mark_solid
      by_contra blank
      rw [Bool.not_eq_false] at blank
      have same : foldLetter first = first := fold_of_blank blank
      have head : first ∈ keyword.head? := by rw [← spelled, List.map_cons, same]; rfl
      rw [solid first head] at blank
      cases blank

end Readers

end Sql
end SqlPipeline
