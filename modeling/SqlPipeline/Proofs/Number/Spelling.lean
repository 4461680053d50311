import SqlPipeline.Proofs.Json.Short

/-!
The texts that spell an integer. Between characters that are cut off stand a sign, if any, and digits
of any script, two of which may have an underscore between them. The readers of integers differ in what
they cut off, and in nothing else.
-/

namespace SqlPipeline
namespace Numeral

/-- A text without the characters of a class at its ends. -/
def strip (isBorder : Char -> Bool) (s : Text) : Text :=
  ((s.dropWhile isBorder).reverse.dropWhile isBorder).reverse

/-- Digits as they are written, and the digits alone. -/
inductive Grouped : Text -> Text -> Prop where
  | digit {c : Char} (digit : Text.isDigit c = true) : Grouped [c] [c]
  | next {c : Char} {written digits : Text} (digit : Text.isDigit c = true)
      (rest : Grouped written digits) : Grouped (c :: written) (c :: digits)
  | apart {c : Char} {written digits : Text} (digit : Text.isDigit c = true)
      (rest : Grouped written digits) : Grouped (c :: '_' :: written) (c :: digits)

inductive Signs : Text -> Bool -> Prop where
  | none : Signs [] false
  | plus : Signs ['+'] false
  | minus : Signs ['-'] true

/-- A sign and digits, which are not too many to be read. -/
inductive IsNumeral : Text -> Int -> Prop where
  | of {sign body digits : Text} {negative : Bool} {magnitude : Nat} (signs : Signs sign negative)
      (grouped : Grouped body digits) (short : digits.length ≤ longest)
      (worth : Text.digits? digits = some magnitude) :
      IsNumeral (sign ++ body) (signed negative magnitude)

/-- A text that is a numeral between borders. -/
def Spells (isBorder : Char -> Bool) (s : Text) (n : Int) : Prop :=
  ∃ before core after : Text, (∀ c ∈ before, isBorder c = true) ∧
    (∀ c ∈ after, isBorder c = true) ∧ s = before ++ (core ++ after) ∧ IsNumeral core n

/-! What a numeral is made of. -/

theorem Grouped.digits_ne_nil {written digits : Text} (grouped : Grouped written digits) :
    digits ≠ [] := by
  cases grouped <;> exact List.cons_ne_nil _ _

/-- A character of a numeral. -/
def isSpelling (c : Char) : Bool :=
  Text.isDigit c || c = '+' || c = '-'

theorem Grouped.head_spelling {written digits : Text} (grouped : Grouped written digits) :
    ∀ c ∈ written.head?, isSpelling c = true := by
  intro c head
  cases grouped <;> cases head <;> simp [isSpelling, *]

theorem Grouped.last_spelling {written digits : Text} (grouped : Grouped written digits) :
    ∀ c ∈ written.getLast?, isSpelling c = true := by
  induction grouped with
  | digit digit => simp [isSpelling, digit]
  | @next c written digits digit rest ih =>
      cases rest <;> simpa using ih
  | @apart c written digits digit rest ih =>
      cases rest <;> simpa using ih

theorem Grouped.written_ne_nil {written digits : Text} (grouped : Grouped written digits) :
    written ≠ [] := by
  cases grouped <;> exact List.cons_ne_nil _ _

theorem IsNumeral.ends {s : Text} {n : Int} (numeral : IsNumeral s n) :
    s ≠ [] ∧ (∀ c ∈ s.head?, isSpelling c = true) ∧ ∀ c ∈ s.getLast?, isSpelling c = true := by
  obtain ⟨signs, grouped, short, worth⟩ := numeral
  have last := grouped.last_spelling
  obtain ⟨first, rest, rfl⟩ := List.exists_cons_of_ne_nil grouped.written_ne_nil
  cases signs with
  | none => exact ⟨grouped.written_ne_nil, grouped.head_spelling, last⟩
  | plus => exact ⟨List.cons_ne_nil _ _, by simp [isSpelling], by simpa using last⟩
  | minus => exact ⟨List.cons_ne_nil _ _, by simp [isSpelling], by simpa using last⟩

/-! Borders. -/

theorem strip_cut (isBorder : Char -> Bool) (s : Text) :
    ∃ before after : Text, (∀ c ∈ before, isBorder c = true) ∧ (∀ c ∈ after, isBorder c = true) ∧
      s = before ++ (strip isBorder s ++ after) := by
  refine ⟨s.takeWhile isBorder, ((s.dropWhile isBorder).reverse.takeWhile isBorder).reverse,
    fun c => List.mem_takeWhile_imp, ?_, ?_⟩
  · intro c member
    exact List.mem_takeWhile_imp (List.mem_reverse.mp member)
  · rw [strip, ← List.reverse_append, List.takeWhile_append_dropWhile, List.reverse_reverse,
      List.takeWhile_append_dropWhile]

theorem strip_exact {isBorder : Char -> Bool} {before core after : Text}
    (first : ∀ c ∈ before, isBorder c = true) (last : ∀ c ∈ after, isBorder c = true)
    (nonempty : core ≠ []) (head : ∀ c ∈ core.head?, isBorder c = false)
    (tail : ∀ c ∈ core.getLast?, isBorder c = false) :
    strip isBorder (before ++ (core ++ after)) = core := by
  have starts : ∀ c ∈ (core ++ after).head?, isBorder c = false := by
    obtain ⟨c, rest, rfl⟩ := List.exists_cons_of_ne_nil nonempty
    exact head
  have reversed : ∀ c ∈ core.reverse.head?, isBorder c = false := by
    rwa [List.head?_reverse]
  have ended : ∀ c ∈ after.reverse, isBorder c = true :=
    fun c member => last c (List.mem_reverse.mp member)
  rw [strip, Text.drop_while_run _ first starts, List.reverse_append,
    Text.drop_while_run _ ended reversed, List.reverse_reverse]

/-- A text spells a number when it is a numeral without its borders. -/
theorem spells_iff {isBorder : Char -> Bool}
    (apart : ∀ c, isSpelling c = true -> isBorder c = false) {s : Text} {n : Int} :
    Spells isBorder s n ↔ IsNumeral (strip isBorder s) n := by
  constructor
  · rintro ⟨before, core, after, first, last, rfl, numeral⟩
    obtain ⟨nonempty, head, tail⟩ := numeral.ends
    rwa [strip_exact first last nonempty (fun c member => apart c (head c member))
      fun c member => apart c (tail c member)]
  · intro numeral
    obtain ⟨before, after, first, last, cut⟩ := strip_cut isBorder s
    exact ⟨before, _, after, first, last, cut, numeral⟩

/-! The reader of plain text. -/

theorem digits_from_all {value magnitude : Nat} {s : Text}
    (worth : Text.digitsFrom? value s = some magnitude) : ∀ c ∈ s, Text.isDigit c = true := by
  induction s generalizing value with
  | nil => exact List.forall_mem_nil _
  | cons c rest ih =>
      obtain ⟨digit, own, later⟩ := Option.bind_eq_some_iff.mp worth
      exact List.forall_mem_cons.mpr ⟨by rw [Text.isDigit, own]; rfl, ih later⟩

/-- A text whose digits are those of ASCII. -/
def IsPlain (s : Text) : Prop :=
  ∀ c ∈ s, Text.isDigit c = true -> Text.isAsciiDigit c = true

theorem underscore_not_digit : Text.isDigit '_' = false := by decide

theorem starts_with_digit_of_grouped {written digits : Text} (grouped : Grouped written digits) :
    Text.startsWithDigit written = true := by
  cases grouped <;> assumption

theorem ungroup_from_cons {c : Char} (other : c ≠ '_') (digitBefore : Bool) (rest : Text) :
    ungroupFrom? digitBefore (c :: rest) =
      (ungroupFrom? (Text.isAsciiDigit c) rest).map (c :: ·) := by
  rw [ungroupFrom?]
  exact other

/-- What is left of a text without its underscores is its digits; behind a digit the text may also
start with an underscore, or end. -/
theorem ungroup_from_iff {s : Text} (plain : IsPlain s) {digitBefore : Bool} {digits : Text} :
    (ungroupFrom? digitBefore s = some digits ∧ ∀ c ∈ digits, Text.isDigit c = true) ↔
      (s = [] ∧ digits = []) ∨ Grouped s digits ∨
        digitBefore = true ∧ ∃ rest, s = '_' :: rest ∧ Grouped rest digits := by
  -- On the text, for any character before it, since an underscore asks for a digit on both sides.
  induction s generalizing digitBefore digits with
  | nil =>
      constructor
      · rintro ⟨same, -⟩
        cases same
        exact .inl ⟨rfl, rfl⟩
      · rintro (⟨-, rfl⟩ | grouped | ⟨-, rest, same, -⟩)
        · exact ⟨rfl, List.forall_mem_nil _⟩
        · cases grouped
        · cases same
  | cons c rest ih =>
      obtain ⟨own, later⟩ := List.forall_mem_cons.mp plain
      by_cases mark : c = '_'
      · subst mark
        rw [ungroupFrom?]
        constructor
        · rintro ⟨found, all⟩
          split_ifs at found with between
          rw [Bool.and_eq_true] at between
          rcases (ih later).mp ⟨found, all⟩ with ⟨rfl, -⟩ | grouped | ⟨absent, -⟩
          · cases between.2
          · exact .inr (.inr ⟨between.1, rest, rfl, grouped⟩)
          · cases absent
        · rintro (⟨absent, -⟩ | grouped | ⟨behind, own, same, grouped⟩)
          · cases absent
          · have head := starts_with_digit_of_grouped grouped
            rw [Text.startsWithDigit, underscore_not_digit] at head
            cases head
          · cases same
            rw [behind, starts_with_digit_of_grouped grouped]
            exact (ih later).mpr (.inr (.inl grouped))
      · rw [ungroup_from_cons mark]
        constructor
        · rintro ⟨found, all⟩
          obtain ⟨others, read, rfl⟩ := Option.map_eq_some_iff.mp found
          obtain ⟨digit, all⟩ := List.forall_mem_cons.mp all
          rcases (ih later).mp ⟨read, all⟩ with ⟨rfl, rfl⟩ | grouped | ⟨-, behind, rfl, grouped⟩
          · exact .inr (.inl (.digit digit))
          · exact .inr (.inl (.next digit grouped))
          · exact .inr (.inl (.apart digit grouped))
        · rintro (⟨absent, -⟩ | grouped | ⟨-, behind, same, -⟩)
          · cases absent
          · cases grouped with
            | digit digit => exact ⟨rfl, by simpa using digit⟩
            | next digit grouped =>
                obtain ⟨read, all⟩ := (@ih later (Text.isAsciiDigit c) _).mpr (.inr (.inl grouped))
                exact ⟨by rw [read, Option.map_some], List.forall_mem_cons.mpr ⟨digit, all⟩⟩
            | @apart c written digits digit grouped =>
                obtain ⟨read, all⟩ :=
                  (ih later).mpr (.inr (.inr ⟨own digit, written, rfl, grouped⟩))
                exact ⟨by rw [read, Option.map_some], List.forall_mem_cons.mpr ⟨digit, all⟩⟩
          · exact absurd (List.cons.inj same).1 mark

theorem ungroup_iff {s : Text} (plain : IsPlain s) {digits : Text} (nonempty : digits ≠ []) :
    (ungroup? s = some digits ∧ ∀ c ∈ digits, Text.isDigit c = true) ↔ Grouped s digits := by
  rw [ungroup?, ungroup_from_iff plain]
  simp [nonempty]

/-- A text is cut behind its sign. -/
theorem sign_cut (s : Text) : ∃ mark, Signs mark (sign s).1 ∧ s = mark ++ (sign s).2 := by
  unfold sign
  split
  · exact ⟨_, .plus, rfl⟩
  · exact ⟨_, .minus, rfl⟩
  · exact ⟨_, .none, rfl⟩

theorem sign_of_cut {mark body digits : Text} {negative : Bool} (signs : Signs mark negative)
    (grouped : Grouped body digits) : sign (mark ++ body) = (negative, body) := by
  have head := starts_with_digit_of_grouped grouped
  cases signs with
  | plus => rfl
  | minus => rfl
  | none =>
      rw [List.nil_append, sign.eq_def]
      split
      · cases (show Text.isDigit '+' = true from head)
      · cases (show Text.isDigit '-' = true from head)
      · rfl

theorem integer_of_plain_iff {s : Text} (plain : IsPlain s) {n : Int} :
    integerOfPlain? s = some n ↔ IsNumeral s n := by
  constructor
  · intro found
    obtain ⟨mark, signs, cut⟩ := sign_cut s
    obtain ⟨digits, read, rest⟩ := Option.bind_eq_some_iff.mp found
    split_ifs at rest with refused
    obtain ⟨magnitude, worth, same⟩ := Option.bind_eq_some_iff.mp rest
    cases same
    rw [Bool.or_eq_true, not_or, List.isEmpty_iff, decide_eq_true_eq] at refused
    have bodyPlain : IsPlain (sign s).2 := by
      intro c member
      apply plain
      rw [cut]
      exact List.mem_append_right _ member
    have grouped := (ungroup_iff bodyPlain refused.1).mp ⟨read, digits_from_all worth⟩
    have numeral := IsNumeral.of signs grouped (Nat.not_lt.mp refused.2) worth
    rwa [← cut] at numeral
  · rintro ⟨signs, grouped, short, worth⟩
    have bodyPlain : IsPlain _ := fun c member => plain c (List.mem_append_right _ member)
    obtain ⟨read, -⟩ := (ungroup_iff bodyPlain grouped.digits_ne_nil).mpr grouped
    simp [integerOfPlain?, sign_of_cut signs grouped, read, grouped.digits_ne_nil, worth,
      Nat.not_lt.mpr short]

/-! Text of any script. -/

theorem digit_from_bounds {c : Char} {digit : Nat} {zeros : List Nat}
    (found : Text.digitFrom? c zeros = some digit) :
    digit < 10 ∧ ∃ first ∈ zeros, c.toNat = first + digit := by
  induction zeros with
  | nil => cases found
  | cons first later ih =>
      rw [Text.digitFrom?] at found
      split_ifs at found with inside
      · cases found
        exact ⟨by omega, first, List.mem_cons_self, by omega⟩
      · obtain ⟨small, own, member, same⟩ := ih found
        exact ⟨small, own, List.mem_cons_of_mem _ member, same⟩

theorem digit_lt {c : Char} {digit : Nat} (found : Text.digit? c = some digit) : digit < 10 :=
  (digit_from_bounds found).1

theorem blank_not_digit {c : Char} (blank : Text.isBlank c = true) : Text.digit? c = none := by
  rw [Option.eq_none_iff_forall_ne_some]
  intro digit found
  obtain ⟨small, first, member, code⟩ := digit_from_bounds found
  obtain ⟨range, inside, bounds⟩ := List.any_eq_true.mp blank
  rw [Bool.and_eq_true, decide_eq_true_eq, decide_eq_true_eq] at bounds
  have apart : ∀ first ∈ Text.zeros, ∀ range ∈ Text.blankRanges,
      first + 9 < range.1 ∨ range.2 < first := by decide
  have settled := apart first member range inside
  omega

theorem digit_char_worth (digit : Fin 10) : Text.digit? (Nat.digitChar digit) = some digit.val := by
  revert digit
  decide

/-- A character in ASCII is worth what it was worth before. -/
theorem plain_char_digit (c : Char) : Text.digit? (plainChar c) = Text.digit? c := by
  unfold plainChar
  split_ifs with ascii blank
  · rfl
  · rw [blank_not_digit blank]
    decide
  · cases found : Text.digit? c with
    | none => decide
    | some digit => exact digit_char_worth ⟨digit, digit_lt found⟩

theorem plain_char_is_digit (c : Char) : Text.isDigit (plainChar c) = Text.isDigit c := by
  rw [Text.isDigit, plain_char_digit, Text.isDigit]

/-- Marks are what they are. -/
theorem plain_char_eq_iff {mark : Char} (ascii : Text.isAscii mark = true)
    (other : mark ≠ ' ' ∧ mark ≠ '?' ∧ Text.digit? mark = none) {c : Char} :
    plainChar c = mark ↔ c = mark := by
  have unlike : Text.isAscii c = false -> c ≠ mark := by
    rintro foreign rfl
    rw [ascii] at foreign
    cases foreign
  unfold plainChar
  split_ifs with own blank
  · rfl
  · exact iff_of_false (Ne.symm other.1) (unlike (Bool.eq_false_iff.mpr own))
  · refine iff_of_false ?_ (unlike (Bool.eq_false_iff.mpr own))
    cases found : Text.digit? c with
    | none => exact Ne.symm other.2.1
    | some digit =>
        rintro rfl
        have worth := digit_char_worth ⟨digit, digit_lt found⟩
        rw [other.2.2] at worth
        cases worth

/-- The digits of other scripts come behind those of ASCII. -/
theorem ascii_digit {c : Char} (low : c.toNat < 0x660) (digit : Text.isDigit c = true) :
    Text.isAsciiDigit c = true := by
  obtain ⟨worth, found⟩ := Option.isSome_iff_exists.mp digit
  obtain ⟨small, first, member, code⟩ := digit_from_bounds found
  have later : ∀ first ∈ Text.zeros, first = '0'.toNat ∨ 0x660 ≤ first := by decide
  have own : c.toNat = '0'.toNat + worth := by
    rcases later first member with rfl | beyond
    · exact code
    · omega
  have lower : '0'.toNat ≤ c.toNat := by omega
  have upper : c.toNat ≤ '9'.toNat := by
    rw [own]
    exact Nat.add_le_add_left (Nat.le_of_lt_succ small) _
  exact Char.isDigit_iff_toNat.mpr ⟨lower, upper⟩

theorem plain_char_ascii (c : Char) : Text.isAscii (plainChar c) = true := by
  unfold plainChar
  split_ifs with ascii blank
  · exact ascii
  · rfl
  · cases found : Text.digit? c with
    | none => rfl
    | some digit =>
        have each : ∀ d : Fin 10, Text.isAscii (Nat.digitChar d) = true := by decide
        exact each ⟨digit, digit_lt found⟩

theorem ascii_plain {s : Text} (ascii : ∀ c ∈ s, Text.isAscii c = true) : IsPlain s :=
  fun c member => ascii_digit (Nat.lt_trans (of_decide_eq_true (ascii c member)) (by decide))

theorem map_plain (s : Text) : IsPlain (s.map plainChar) := by
  apply ascii_plain
  intro c member
  obtain ⟨own, -, rfl⟩ := List.mem_map.mp member
  exact plain_char_ascii own

theorem underscore_plain_iff {c : Char} : plainChar c = '_' ↔ c = '_' :=
  plain_char_eq_iff rfl (by decide)

theorem digits_plain (s : Text) (value : Nat) :
    Text.digitsFrom? value (s.map plainChar) = Text.digitsFrom? value s := by
  induction s generalizing value with
  | nil => rfl
  | cons c rest ih => simp only [List.map_cons, Text.digitsFrom?, plain_char_digit, ih]

theorem Grouped.plain {written digits : Text} (grouped : Grouped written digits) :
    Grouped (written.map plainChar) (digits.map plainChar) := by
  induction grouped with
  | digit digit => exact .digit ((plain_char_is_digit _).trans digit)
  | next digit rest ih => exact .next ((plain_char_is_digit _).trans digit) ih
  | apart digit rest ih => exact .apart ((plain_char_is_digit _).trans digit) ih

theorem Grouped.of_plain {written digits : Text} (grouped : Grouped written digits) {s : Text}
    (same : s.map plainChar = written) : ∃ own, Grouped s own ∧ digits = own.map plainChar := by
  induction grouped generalizing s with
  | digit digit =>
      obtain ⟨c, rfl, rfl⟩ := List.map_eq_singleton_iff.mp same
      rw [plain_char_is_digit] at digit
      exact ⟨[c], .digit digit, rfl⟩
  | next digit rest ih =>
      obtain ⟨c, behind, rfl, rfl, later⟩ := List.map_eq_cons_iff.mp same
      obtain ⟨own, found, rfl⟩ := ih later
      rw [plain_char_is_digit] at digit
      exact ⟨c :: own, .next digit found, rfl⟩
  | apart digit rest ih =>
      obtain ⟨c, behind, rfl, rfl, later⟩ := List.map_eq_cons_iff.mp same
      obtain ⟨mark, last, rfl, underscore, later⟩ := List.map_eq_cons_iff.mp later
      obtain ⟨own, found, rfl⟩ := ih later
      rw [plain_char_is_digit] at digit
      rw [underscore_plain_iff.mp underscore]
      exact ⟨c :: own, .apart digit found, rfl⟩

theorem Signs.of_plain {mark : Text} {negative : Bool} (signs : Signs mark negative) {s : Text}
    (same : s.map plainChar = mark) : Signs s negative := by
  cases signs with
  | none =>
      rw [List.map_eq_nil_iff.mp same]
      exact .none
  | plus =>
      obtain ⟨c, rfl, plus⟩ := List.map_eq_singleton_iff.mp same
      rw [(plain_char_eq_iff rfl (by decide)).mp plus]
      exact .plus
  | minus =>
      obtain ⟨c, rfl, minus⟩ := List.map_eq_singleton_iff.mp same
      rw [(plain_char_eq_iff rfl (by decide)).mp minus]
      exact .minus

theorem Signs.plain {mark : Text} {negative : Bool} (signs : Signs mark negative) :
    mark.map plainChar = mark := by
  cases signs <;> decide

/-- A text is a numeral when it is one in ASCII. -/
theorem numeral_plain_iff {s : Text} {n : Int} : IsNumeral (s.map plainChar) n ↔ IsNumeral s n := by
  constructor
  · generalize same : s.map plainChar = written
    rintro ⟨signs, grouped, short, worth⟩
    obtain ⟨mark, body, rfl, first, second⟩ := List.map_eq_append_iff.mp same
    obtain ⟨own, found, rfl⟩ := grouped.of_plain second
    rw [List.length_map] at short
    rw [Text.digits?, digits_plain] at worth
    exact .of (signs.of_plain first) found short worth
  · rintro ⟨signs, grouped, short, worth⟩
    rw [List.map_append, signs.plain]
    rw [← List.length_map (f := plainChar)] at short
    rw [Text.digits?, ← digits_plain] at worth
    exact .of signs grouped.plain short worth

/-! The readers. -/

/-- Spaces of ASCII, and blanks beyond it. -/
def isMargin (c : Char) : Bool :=
  isSpace (plainChar c)

theorem space_blank {c : Char} (space : isSpace c = true) : Text.isBlank c = true := by
  simp only [isSpace, Bool.or_eq_true, Bool.and_eq_true, decide_eq_true_eq] at space
  rcases space with rfl | ⟨lower, upper⟩
  · decide
  · have least : '\t'.toNat ≤ c.toNat := lower
    have greatest : c.toNat ≤ '\r'.toNat := upper
    exact List.any_eq_true.mpr ⟨(0x9, 0xd), by decide, by simp_all⟩

theorem spelling_not_blank {c : Char} (spelling : isSpelling c = true) : Text.isBlank c = false := by
  simp only [isSpelling, Bool.or_eq_true, decide_eq_true_eq] at spelling
  rcases spelling with (digit | rfl) | rfl
  · apply Bool.eq_false_iff.mpr
    intro blank
    rw [Text.isDigit, blank_not_digit blank] at digit
    cases digit
  · decide
  · decide

theorem spelling_not_space {c : Char} (spelling : isSpelling c = true) : isSpace c = false := by
  apply Bool.eq_false_iff.mpr
  intro space
  have solid := spelling_not_blank spelling
  rw [space_blank space] at solid
  cases solid

theorem spelling_plain (c : Char) : isSpelling (plainChar c) = isSpelling c := by
  have plus : plainChar c = '+' ↔ c = '+' := plain_char_eq_iff rfl (by decide)
  have minus : plainChar c = '-' ↔ c = '-' := plain_char_eq_iff rfl (by decide)
  simp only [isSpelling, plain_char_is_digit, plus, minus]

theorem strip_plain (s : Text) : stripSpaces (s.map plainChar) = (strip isMargin s).map plainChar := by
  have margin : isSpace ∘ plainChar = isMargin := rfl
  rw [stripSpaces, strip, List.dropWhile_map, ← List.map_reverse, List.dropWhile_map,
    ← List.map_reverse, margin]

theorem integer_iff {s : Text} {n : Int} : integer? s = some n ↔ Spells isMargin s n := by
  have apart (c : Char) (spelling : isSpelling c = true) : isMargin c = false :=
    spelling_not_space ((spelling_plain c).trans spelling)
  rw [integer?, plain, strip_plain, integer_of_plain_iff (map_plain _), numeral_plain_iff,
    spells_iff apart]

theorem margin_blank {c : Char} (margin : isMargin c = true) : Text.isBlank c = true := by
  unfold isMargin plainChar at margin
  split_ifs at margin with ascii blank
  · exact space_blank margin
  · exact blank
  · cases found : Text.digit? c with
    | none =>
        rw [found] at margin
        cases margin
    | some digit =>
        rw [found] at margin
        have each : ∀ d : Fin 10, isSpace (Nat.digitChar d) = false := by decide
        rw [each ⟨digit, digit_lt found⟩] at margin
        cases margin

/-- Behind all blanks there is no margin left. -/
theorem trimmed_integer_iff {s : Text} {n : Int} :
    integer? (Text.trim s) = some n ↔ Spells Text.isBlank s n := by
  have solid {c : Char} (other : Text.isBlank c = false) : isMargin c = false := by
    apply Bool.eq_false_iff.mpr
    intro margin
    rw [margin_blank margin] at other
    cases other
  have kept : strip isMargin (Text.trim s) = Text.trim s :=
    Text.strip_of_ends (fun c head => solid (Text.trim_head c head))
      fun c last => solid (Text.trim_end_last c last)
  rw [integer?, plain, strip_plain, kept, integer_of_plain_iff (map_plain _), numeral_plain_iff,
    spells_iff fun c => spelling_not_blank]
  rfl

theorem stripped_integer_iff {s : Text} (plain : IsPlain s) {n : Int} :
    integerOfPlain? (stripSpaces s) = some n ↔ Spells isSpace s n := by
  have inner : IsPlain (stripSpaces s) := by
    intro c member
    apply plain
    obtain ⟨before, after, -, -, cut⟩ := strip_cut isSpace s
    rw [cut]
    exact List.mem_append_right _ (List.mem_append_left _ member)
  rw [integer_of_plain_iff inner, spells_iff fun c => spelling_not_space]
  rfl

/-! The size of what is read. -/

theorem digits_from_bound {value magnitude : Nat} {s : Text}
    (worth : Text.digitsFrom? value s = some magnitude) :
    magnitude < (value + 1) * 10 ^ s.length := by
  induction s generalizing value with
  | nil =>
      cases worth
      simp
  | cons c rest ih =>
      obtain ⟨digit, own, later⟩ := Option.bind_eq_some_iff.mp worth
      have small := digit_lt own
      calc magnitude
          < (10 * value + digit + 1) * 10 ^ rest.length := ih later
        _ ≤ ((value + 1) * 10) * 10 ^ rest.length := Nat.mul_le_mul_right _ (by omega)
        _ = (value + 1) * 10 ^ (c :: rest).length := by
            rw [List.length_cons, Nat.pow_succ, Nat.mul_assoc, Nat.mul_comm 10]

theorem IsNumeral.bound {s : Text} {n : Int} (numeral : IsNumeral s n) :
    n.natAbs < 10 ^ longest := by
  obtain ⟨signs, grouped, short, worth⟩ := numeral
  have below := digits_from_bound worth
  rw [Nat.zero_add, Nat.one_mul] at below
  rw [Json.signed_nat_abs]
  exact Nat.lt_of_lt_of_le below (Nat.pow_le_pow_right (by decide) short)

theorem integer_bound {s : Text} {n : Int} (found : integer? s = some n) :
    n.natAbs < 10 ^ longest := by
  obtain ⟨before, core, after, -, -, -, numeral⟩ := integer_iff.mp found
  exact numeral.bound

end Numeral
end SqlPipeline
