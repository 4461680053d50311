import SqlPipeline.Proofs.Json.Grammar
import SqlPipeline.Proofs.Members
import SqlPipeline.Proofs.Text.Cut

/-!
Reading what the grammar derives. Every part of a document is read as the node that it denotes and up
to where it ends, which is shown by what follows it: a blank, a comma, a closing mark or nothing. A
text therefore denotes one document at most.
-/

namespace SqlPipeline
namespace Json

open Text (AllDigits)

/-! Blanks and what follows a node. -/

/-- What may follow a node: a blank, a comma, a closing bracket or a closing brace. -/
def isBreak (c : Char) : Bool :=
  isSpace c || c = ',' || c = ']' || c = '\x7d'

/-- A text goes on with a break, or it ends. -/
def Breaks (rest : Text) : Prop :=
  ∀ c ∈ rest.head?, isBreak c = true

theorem blanks_break {blanks rest : Text} (blank : IsBlank blanks) (breaks : Breaks rest) :
    Breaks (blanks ++ rest) := by
  intro c head
  cases blanks with
  | nil => exact breaks c head
  | cons own later =>
      cases head
      rw [isBreak, blank c List.mem_cons_self]
      rfl

/-- What opens a node is neither a blank nor a closing mark, nor a byte order mark. -/
structure Opens (s : Text) : Prop where
  nonempty : s ≠ []
  solid : ∀ c ∈ s.head?, isSpace c = false
  bracket : ∀ c ∈ s.head?, c ≠ ']'
  brace : ∀ c ∈ s.head?, c ≠ '\x7d'
  mark : ∀ c ∈ s.head?, c ≠ '\ufeff'

theorem opens_of_head {c : Char}
    (free : isSpace c = false ∧ c ≠ ']' ∧ c ≠ '\x7d' ∧ c ≠ '\ufeff') (rest : Text) :
    Opens (c :: rest) := by
  obtain ⟨solid, bracket, brace, mark⟩ := free
  refine ⟨List.cons_ne_nil c rest, ?_, ?_, ?_, ?_⟩
  all_goals
    intro own head
    cases head
    assumption

theorem opens_of_digit {c : Char} (digit : Text.isAsciiDigit c = true) (rest : Text) :
    Opens (c :: rest) :=
  opens_of_head (Text.digit_cases
    (P := fun c => isSpace c = false ∧ c ≠ ']' ∧ c ≠ '\x7d' ∧ c ≠ '\ufeff') (by decide) digit) rest

theorem number_opens {number : NumberText} (valid : number.IsValid) : Opens number.text := by
  rw [NumberText.text]
  cases number.negative with
  | true => exact opens_of_head (by decide) _
  | false =>
      rw [if_neg Bool.false_ne_true, NumberText.magnitude]
      cases digits : number.whole with
      | nil => exact absurd digits valid.nonempty
      | cons c later => exact opens_of_digit (valid.whole c (digits ▸ List.mem_cons_self)) _

theorem quotes_open {written s : Text} (quotes : Quotes written s) : Opens written := by
  cases quotes with
  | pieces each => exact opens_of_head (by decide) _

theorem denotes_opens {room : Nat} {s : Text} {node : Node} (denotes : Denotes room s node) :
    Opens s := by
  cases denotes with
  | null => exact opens_of_head (by decide) _
  | bool b =>
      cases b with
      | true => exact opens_of_head (by decide) _
      | false => exact opens_of_head (by decide) _
  | number valid => exact number_opens valid
  | text quotes => exact quotes_open quotes
  | emptyArray blank => exact opens_of_head (by decide) _
  | array nonempty padded each => exact opens_of_head (by decide) _
  | emptyObject blank => exact opens_of_head (by decide) _
  | object nonempty padded quotes distinct each => exact opens_of_head (by decide) _

/-- Blanks before a node are skipped. -/
theorem skip_blanks {blanks s : Text} (blank : IsBlank blanks) (opens : Opens s) (rest : Text) :
    skip (blanks ++ (s ++ rest)) = s ++ rest := by
  refine Text.drop_while_run (s ++ rest) blank ?_
  rw [List.head?_append_of_ne_nil _ opens.nonempty]
  exact opens.solid

theorem skip_to_mark {blanks : Text} (blank : IsBlank blanks) {c : Char} (mark : isSpace c = false)
    (rest : Text) : skip (blanks ++ c :: rest) = c :: rest := by
  refine Text.drop_while_run (c :: rest) blank ?_
  intro own head
  cases head
  exact mark

/-! Strings. -/

section

variable {rest after : Text} {pieces : List Piece}

theorem piece_plain {c : Char} (visible : ¬c < ' ') (quote : c ≠ '"') (escape : c ≠ '\\')
    (later : pieces? rest = some (pieces, after)) :
    pieces? (c :: rest) = some (.char c :: pieces, after) := by
  rw [pieces?.eq_def]
  split
  · contradiction
  · rename_i same
    exact absurd (List.cons.inj same).1 quote
  · rename_i same
    exact absurd (List.cons.inj same).1 escape
  · rename_i same
    exact absurd (List.cons.inj same).1 escape
  · rename_i same
    obtain ⟨rfl, rfl⟩ := List.cons.inj same
    rw [if_neg visible, later]
    rfl

theorem piece_short {c own : Char} (known : shortEscape? c = some own)
    (later : pieces? rest = some (pieces, after)) :
    pieces? ('\\' :: c :: rest) = some (.char own :: pieces, after) := by
  have other : c ≠ 'u' := by
    rintro rfl
    cases known
  rw [pieces?.eq_def]
  split
  · contradiction
  · rename_i same
    exact absurd (List.cons.inj same).1 (by decide)
  · rename_i same
    exact absurd (List.cons.inj (List.cons.inj same).2).1 other
  · rename_i same
    cases same
    rw [known, later]
    rfl
  · rename_i escape same
    cases same
    exact absurd rfl (escape c rest rfl)

theorem piece_numbered {a b c d : Char} {n : Nat} (known : Bytes.hexNumber? [a, b, c, d] = some n)
    (later : pieces? rest = some (pieces, after)) :
    pieces? ('\\' :: 'u' :: a :: b :: c :: d :: rest) = some (.unit n :: pieces, after) := by
  rw [pieces?, known, later]
  rfl

theorem pieces_read {spelled : List Text} {pieces : List Piece}
    (each : List.Forall₂ Spells spelled pieces) (rest : Text) :
    pieces? (spelled.flatten ++ '"' :: rest) = some (pieces, rest) := by
  induction each with
  | nil => rw [List.flatten_nil, List.nil_append, pieces?]
  | @cons written piece texts others spells each ih =>
      rw [List.flatten_cons, List.append_assoc]
      cases spells with
      | plain visible quote escape => exact piece_plain visible quote escape ih
      | short known => exact piece_short known ih
      | numbered known => exact piece_numbered known ih

end

theorem string_read {written s : Text} (quotes : Quotes written s) :
    ∃ inner, written = '"' :: inner ∧ ∀ rest, string? (inner ++ rest) = some (s, rest) := by
  cases quotes with
  | @pieces spelled pieces each =>
      refine ⟨spelled.flatten ++ ['"'], rfl, fun rest => ?_⟩
      rw [string?, List.append_assoc, List.singleton_append, pieces_read each]
      rfl

/-! Numbers. -/

theorem break_cases {P : Char -> Prop} (each : ∀ c ∈ [' ', '\t', '\n', '\r', ',', ']', '\x7d'], P c)
    {c : Char} (found : isBreak c = true) : P c := by
  simp only [isBreak, isSpace, Bool.or_eq_true, decide_eq_true_eq, or_assoc] at found
  apply each
  simpa using found

section

variable {rest : Text}

/-- A run of digits ends where the text goes on with something else. -/
theorem digit_run_read {digits : Text} (all : AllDigits digits)
    (stop : ∀ c ∈ rest.head?, Text.isAsciiDigit c = false) :
    digitRun (digits ++ rest) = (digits, rest) := by
  rw [digitRun, Text.take_while_run rest all stop, Text.drop_while_run rest all stop]

theorem whole_digits_read {digits : Text} (nonempty : digits ≠ []) (all : AllDigits digits)
    (plain : digits.head? = some '0' -> digits = ['0'])
    (stop : ∀ c ∈ rest.head?, Text.isAsciiDigit c = false) :
    wholeDigits (digits ++ rest) = (digits, rest) := by
  cases digits with
  | nil => exact absurd rfl nonempty
  | cons c later =>
      by_cases zero : c = '0'
      · subst zero
        rw [plain rfl]
        rfl
      · rw [← digit_run_read all stop]
        unfold wholeDigits
        split
        · rename_i same
          exact absurd (List.cons.inj same).1 zero
        · rfl

theorem fraction_read {number : NumberText} (all : AllDigits number.fraction)
    (stop : ∀ c ∈ rest.head?, Text.isAsciiDigit c = false ∧ c ≠ '.') :
    fractionDigits (number.fractionText ++ rest) = (number.fraction, rest) := by
  rw [NumberText.fractionText]
  by_cases none : number.fraction = []
  · rw [if_pos none, none, List.nil_append]
    unfold fractionDigits
    split
    · exact absurd rfl (stop '.' rfl).2
    · rfl
  · have run := digit_run_read all fun c head => (stop c head).1
    have some : ¬number.fraction.isEmpty = true := by rwa [List.isEmpty_iff]
    rw [if_neg none, List.cons_append]
    simp only [fractionDigits, run, if_neg some]

theorem sign_read {exponent : ExponentText} (valid : exponent.IsValid) :
    Numeral.sign (exponent.sign ++ (exponent.digits ++ rest)) =
      (decide (exponent.sign = ['-']), exponent.digits ++ rest) := by
  have unsigned : Numeral.sign (exponent.digits ++ rest) = (false, exponent.digits ++ rest) := by
    have digit := Text.digits_head valid.digits valid.nonempty rest
    unfold Numeral.sign
    split
    · rename_i same
      exact absurd (digit '+' (by rw [same]; rfl)) (by decide)
    · rename_i same
      exact absurd (digit '-' (by rw [same]; rfl)) (by decide)
    · rfl
  rcases valid.sign with none | plus | minus
  · rw [none]
    exact unsigned
  · rw [plus]
    rfl
  · rw [minus]
    rfl

theorem exponent_read {exponent : ExponentText} (valid : exponent.IsValid) (breaks : Breaks rest) :
    exponent? (exponent.text ++ rest) = some (exponent.value, rest) := by
  have stop : ∀ c ∈ rest.head?, Text.isAsciiDigit c = false := fun c head =>
    break_cases (P := fun c => Text.isAsciiDigit c = false) (by decide) (breaks c head)
  have shape : (exponent.mark = 'e' ∨ exponent.mark = 'E') ∧ (!exponent.digits.isEmpty) = true :=
    ⟨valid.mark, by simpa using valid.nonempty⟩
  rw [ExponentText.text, List.cons_append, List.cons_append, List.append_assoc]
  simp only [exponent?, sign_read valid, digit_run_read valid.digits stop, if_pos shape]
  rfl

theorem no_exponent (breaks : Breaks rest) : exponent? rest = none := by
  cases rest with
  | nil => rfl
  | cons c later =>
      have other : ¬(c = 'e' ∨ c = 'E') :=
        break_cases (P := fun c => ¬(c = 'e' ∨ c = 'E')) (by decide) (breaks c rfl)
      exact if_neg fun both => other both.1

theorem exponent_stops {number : NumberText} (valid : number.IsValid) (breaks : Breaks rest) :
    ∀ c ∈ (number.exponentText ++ rest).head?, Text.isAsciiDigit c = false ∧ c ≠ '.' := by
  rw [NumberText.exponentText]
  intro c head
  cases written : number.exponent? with
  | none =>
      rw [written] at head
      exact break_cases (P := fun c => Text.isAsciiDigit c = false ∧ c ≠ '.') (by decide) (breaks c head)
  | some exponent =>
      rw [written] at head
      cases head
      rcases (valid.exponent exponent written).mark with small | capital
      · rw [small]
        decide
      · rw [capital]
        decide

theorem fraction_stops {number : NumberText} (valid : number.IsValid) (breaks : Breaks rest) :
    ∀ c ∈ (number.fractionText ++ (number.exponentText ++ rest)).head?, Text.isAsciiDigit c = false := by
  rw [NumberText.fractionText]
  intro c head
  by_cases none : number.fraction = []
  · rw [if_pos none] at head
    exact (exponent_stops valid breaks c head).1
  · rw [if_neg none] at head
    cases head
    rfl

theorem number_read {number : NumberText} (valid : number.IsValid) (breaks : Breaks rest) :
    Json.number number.negative (number.magnitude ++ rest) = .ok (number.node, rest) := by
  have wholes := whole_digits_read valid.nonempty valid.whole valid.plain (fraction_stops valid breaks)
  have fractions := fraction_read valid.fraction (exponent_stops valid breaks)
  have present : ¬number.whole.isEmpty = true := by
    rw [List.isEmpty_iff]
    exact valid.nonempty
  rw [NumberText.magnitude, List.append_assoc, List.append_assoc]
  simp only [Json.number, wholes, fractions, if_neg present]
  rw [NumberText.node, NumberText.exponentText]
  cases written : number.exponent? with
  | none =>
      rw [List.nil_append, no_exponent breaks]
      cases digits : number.fraction with
      | nil => exact if_neg (Nat.not_lt.mpr (valid.short digits written))
      | cons c later => rfl
  | some exponent =>
      dsimp only
      rw [exponent_read (valid.exponent exponent written) breaks]
      cases digits : number.fraction with
      | nil => rfl
      | cons c later => rfl

theorem word_of_digit {c : Char} (digit : Text.isAsciiDigit c = true) : word? (c :: rest) = none := by
  have other : c ≠ 'n' ∧ c ≠ 't' ∧ c ≠ 'f' ∧ c ≠ 'N' ∧ c ≠ 'I' ∧ c ≠ '-' :=
    Text.digit_cases (P := fun c => c ≠ 'n' ∧ c ≠ 't' ∧ c ≠ 'f' ∧ c ≠ 'N' ∧ c ≠ 'I' ∧ c ≠ '-')
      (by decide) digit
  obtain ⟨n, t, f, notNumber, infinity, minus⟩ := other
  simp [word?, n.symm, t.symm, f.symm, notNumber.symm, infinity.symm, minus.symm]

theorem word_of_minus {c : Char} (digit : Text.isAsciiDigit c = true) :
    word? ('-' :: c :: rest) = none := by
  have other : c ≠ 'I' := Text.digit_cases (P := fun c => c ≠ 'I') (by decide) digit
  simp [word?, other.symm]

theorem scalar_number {number : NumberText} (valid : number.IsValid) (breaks : Breaks rest) :
    scalar (number.text ++ rest) = .ok (number.node, rest) := by
  have read := number_read valid breaks
  cases digits : number.magnitude with
  | nil => exact absurd (List.append_eq_nil_iff.mp digits).1 valid.nonempty
  | cons c later =>
      have digit : Text.isAsciiDigit c = true := by
        have head : c ∈ number.magnitude.head? := by
          rw [digits]
          rfl
        exact Text.digits_head valid.whole valid.nonempty _ c head
      rw [digits] at read
      rw [NumberText.text, digits]
      cases sign : number.negative with
      | true =>
          rw [sign] at read
          rw [if_pos rfl, List.cons_append, List.cons_append, scalar, word_of_minus digit]
          exact read
      | false =>
          have unsigned : c ≠ '-' := Text.digit_cases (P := fun c => c ≠ '-') (by decide) digit
          rw [sign] at read
          rw [if_neg Bool.false_ne_true, List.cons_append, scalar, word_of_digit digit]
          · exact read
          · exact fun _ same => unsigned (List.cons.inj same).1

end

/-! Nested nodes. -/

section

variable {fuel room : Nat} {rest : Text}

/-- A text that opens none of the nested nodes is read as a scalar. -/
theorem node_scalar {c : Char} (quote : c ≠ '"') (bracket : c ≠ '[') (brace : c ≠ '\x7b') :
    Json.node (fuel + 1) room (c :: rest) = scalar (c :: rest) := by
  rw [node.eq_def]
  split
  · contradiction
  · rename_i same
    exact absurd (List.cons.inj same).1 quote
  · rename_i same
    exact absurd (List.cons.inj same).1 bracket
  · rename_i same
    exact absurd (List.cons.inj same).1 brace
  · rename_i same
    exact absurd (List.cons.inj same).1 bracket
  · rename_i same
    exact absurd (List.cons.inj same).1 brace
  · rfl

theorem number_node {number : NumberText} (valid : number.IsValid) (breaks : Breaks rest) :
    Json.node (fuel + 1) room (number.text ++ rest) = .ok (number.node, rest) := by
  rw [← scalar_number valid breaks, NumberText.text]
  cases number.negative with
  | true => exact node_scalar (by decide) (by decide) (by decide)
  | false =>
      rw [if_neg Bool.false_ne_true, NumberText.magnitude]
      cases digits : number.whole with
      | nil => exact absurd digits valid.nonempty
      | cons c later =>
          have digit : Text.isAsciiDigit c = true := valid.whole c (digits ▸ List.mem_cons_self)
          have other : c ≠ '"' ∧ c ≠ '[' ∧ c ≠ '\x7b' :=
            Text.digit_cases (P := fun c => c ≠ '"' ∧ c ≠ '[' ∧ c ≠ '\x7b') (by decide) digit
          exact node_scalar other.1 other.2.1 other.2.2

theorem string_node {written s : Text} (quotes : Quotes written s) :
    Json.node (fuel + 1) room (written ++ rest) = .ok (.text s, rest) := by
  obtain ⟨inner, rfl, read⟩ := string_read quotes
  rw [List.cons_append, node, read]

/-- Whatever follows it after a break, a text is read as a node. -/
def IsRead (room : Nat) (s : Text) (document : Node) : Prop :=
  ∀ fuel rest, 2 * s.length ≤ fuel -> Breaks rest ->
    Json.node fuel room (s ++ rest) = .ok (document, rest)

theorem mark_breaks {blanks : Text} (blank : IsBlank blanks) {c : Char} (mark : isBreak c = true)
    (rest : Text) : Breaks (blanks ++ c :: rest) := by
  refine blanks_break blank fun own head => ?_
  cases head
  exact mark

theorem last_item {s after : Text} {document : Node} (blank : IsBlank after)
    (read : Json.node fuel room s = .ok (document, after ++ ']' :: rest)) :
    items (fuel + 1) room s = .ok ([document], rest) := by
  simp only [items, read, skip_to_mark blank (c := ']') rfl]

theorem next_item {s after tail : Text} {document : Node} {later : List Node} (blank : IsBlank after)
    (read : Json.node fuel room s = .ok (document, after ++ ',' :: tail))
    (ran : items fuel room (skip tail) = .ok (later, rest)) :
    items (fuel + 1) room s = .ok (document :: later, rest) := by
  simp only [items, read, skip_to_mark blank (c := ',') rfl, ran]

/-- The first of several pieces with commas between them. -/
theorem commas_cons {α : Type} (whole : α -> Text) (first next : α) (later : List α) :
    List.intercalate [','] ((first :: next :: later).map whole) =
      whole first ++ ',' :: List.intercalate [','] ((next :: later).map whole) := by
  rw [List.map_cons, List.map_cons, List.intercalate_cons_cons, List.append_assoc,
    List.singleton_append]

/-- A part that can be read between brackets. -/
structure Part.Reads (room : Nat) (part : Part) : Prop where
  padded : part.IsPadded
  opens : Opens part.text
  read : IsRead room part.text part.node

/-- The items of an array from one on, up to the bracket that closes it. -/
theorem items_read {parts : List Part} (nonempty : parts ≠ [])
    (each : ∀ part ∈ parts, part.Reads room)
    (enough : 2 * (List.intercalate [','] (parts.map Part.whole)).length < fuel) :
    items fuel room (skip (List.intercalate [','] (parts.map Part.whole) ++ ']' :: rest)) =
      .ok (parts.map Part.node, rest) := by
  induction parts generalizing fuel with
  | nil => exact absurd rfl nonempty
  | cons part later ih =>
      obtain ⟨⟨⟨before, after⟩, opens, read⟩, remaining⟩ := List.forall_mem_cons.mp each
      cases fuel with
      | zero => exact absurd enough (Nat.not_lt_zero _)
      | succ fuel =>
          cases later with
          | nil =>
              have length : 2 * part.text.length ≤ fuel := by
                simp [Part.whole] at enough
                omega
              simp only [List.map_cons, List.map_nil, List.intercalate_singleton, Part.whole,
                List.append_assoc]
              rw [skip_blanks before opens]
              exact last_item after (read fuel _ length (mark_breaks after rfl _))
          | cons next others =>
              have length : 2 * part.text.length ≤ fuel ∧
                  2 * (List.intercalate [','] ((next :: others).map Part.whole)).length < fuel := by
                rw [commas_cons] at enough
                simp [Part.whole] at enough ⊢
                omega
              have ran := ih (List.cons_ne_nil next others) remaining length.2
              rw [commas_cons, Part.whole, List.append_assoc, List.append_assoc, List.append_assoc,
                skip_blanks before opens]
              exact next_item after (read fuel _ length.1 (mark_breaks after rfl _)) ran

theorem member_name_read {member : NamedPart} (padded : member.IsPadded)
    (quotes : Quotes member.quoted member.name) (opens : Opens member.part.text) :
    memberName? (member.quoted ++ (member.after ++ ':' :: (member.part.whole ++ rest))) =
      some (member.name, member.part.text ++ (member.part.after ++ rest)) := by
  obtain ⟨inner, written, read⟩ := string_read quotes
  rw [written, List.cons_append, memberName?, read]
  simp only [Option.bind_eq_bind, Option.bind_some]
  rw [skip_to_mark padded.after rfl, Part.whole, List.append_assoc, List.append_assoc]
  change some (member.name, skip _) = _
  rw [skip_blanks padded.part.1 opens]

theorem last_member {s value after : Text} {name : Text} {document : Node} (blank : IsBlank after)
    (named : memberName? s = some (name, value))
    (read : Json.node fuel room value = .ok (document, after ++ '\x7d' :: rest)) :
    members (fuel + 1) room s = .ok ([(name, document)], rest) := by
  simp only [members, named, read, skip_to_mark blank (c := '\x7d') rfl]

theorem next_member {s value after tail : Text} {name : Text} {document : Node}
    {later : List (Text × Node)} (blank : IsBlank after)
    (named : memberName? s = some (name, value))
    (read : Json.node fuel room value = .ok (document, after ++ ',' :: tail))
    (ran : members fuel room (skip tail) = .ok (later, rest)) :
    members (fuel + 1) room s = .ok ((name, document) :: later, rest) := by
  simp only [members, named, read, skip_to_mark blank (c := ',') rfl, ran]

/-- A member that can be read between braces. -/
structure NamedPart.Reads (room : Nat) (member : NamedPart) : Prop where
  padded : member.IsPadded
  quotes : Quotes member.quoted member.name
  opens : Opens member.part.text
  read : IsRead room member.part.text member.part.node

/-- The members of an object from one on, up to the brace that closes it. -/
theorem members_read {parts : List NamedPart} (nonempty : parts ≠ [])
    (each : ∀ member ∈ parts, member.Reads room)
    (enough : 2 * (List.intercalate [','] (parts.map NamedPart.whole)).length < fuel) :
    members fuel room (skip (List.intercalate [','] (parts.map NamedPart.whole) ++ '\x7d' :: rest)) =
      .ok (parts.map NamedPart.entry, rest) := by
  induction parts generalizing fuel with
  | nil => exact absurd rfl nonempty
  | cons member later ih =>
      obtain ⟨⟨blanks, quotes, opens, read⟩, remaining⟩ := List.forall_mem_cons.mp each
      cases fuel with
      | zero => exact absurd enough (Nat.not_lt_zero _)
      | succ fuel =>
          cases later with
          | nil =>
              have length : 2 * member.part.text.length ≤ fuel := by
                simp [NamedPart.whole, Part.whole] at enough
                omega
              simp only [List.map_cons, List.map_nil, List.intercalate_singleton,
                NamedPart.whole, List.append_assoc, List.cons_append]
              rw [skip_blanks blanks.before (quotes_open quotes)]
              exact last_member blanks.part.2 (member_name_read blanks quotes opens)
                (read fuel _ length (mark_breaks blanks.part.2 rfl _))
          | cons next others =>
              have length : 2 * member.part.text.length ≤ fuel ∧
                  2 * (List.intercalate [','] ((next :: others).map NamedPart.whole)).length <
                    fuel := by
                rw [commas_cons] at enough
                simp [NamedPart.whole, Part.whole] at enough ⊢
                omega
              have ran := ih (List.cons_ne_nil next others) remaining length.2
              rw [commas_cons, NamedPart.whole]
              simp only [List.append_assoc, List.cons_append]
              rw [skip_blanks blanks.before (quotes_open quotes)]
              exact next_member blanks.part.2 (member_name_read blanks quotes opens)
                (read fuel _ length.1 (mark_breaks blanks.part.2 rfl _)) ran

end

/-! Whole documents. -/

section

variable {room : Nat}

theorem join_starts (separator piece : Text) (later : List Text) :
    ∃ tail, List.intercalate separator (piece :: later) = piece ++ tail := by
  cases later with
  | nil => exact ⟨[], by rw [List.intercalate_singleton, List.append_nil]⟩
  | cons next others =>
      exact ⟨separator ++ List.intercalate separator (next :: others), by
        rw [List.intercalate_cons_cons, List.append_assoc]⟩

/-- What is read of pieces with commas between them opens as the first of them does. -/
theorem joined_opens {before core after : Text} (blank : IsBlank before) (opens : Opens core)
    (later : List Text) (rest : Text) :
    (skip (List.intercalate [','] ((before ++ (core ++ after)) :: later) ++ rest)).head? =
      core.head? := by
  obtain ⟨tail, joined⟩ := join_starts [','] (before ++ (core ++ after)) later
  rw [joined, List.append_assoc, List.append_assoc, List.append_assoc, skip_blanks blank opens,
    List.head?_append_of_ne_nil _ opens.nonempty]

/-- Items between brackets, the first of which does not open with the closing one. -/
theorem array_node {fuel : Nat} {inner rest : Text} {nodes : List Node}
    (opens : ∀ c ∈ (skip inner).head?, c ≠ ']') (ran : items fuel room (skip inner) = .ok (nodes, rest)) :
    Json.node (fuel + 1) (room + 1) ('[' :: inner) = .ok (.array nodes, rest) := by
  rw [node]
  split
  · rename_i same
    exact absurd rfl (opens ']' (by rw [same]; rfl))
  · rw [ran]

theorem object_node {fuel : Nat} {inner rest : Text} {entries : List (Text × Node)}
    (opens : ∀ c ∈ (skip inner).head?, c ≠ '\x7d')
    (ran : members fuel room (skip inner) = .ok (entries, rest)) :
    Json.node (fuel + 1) (room + 1) ('\x7b' :: inner) = .ok (.ofMembers entries, rest) := by
  rw [node]
  split
  · rename_i same
    exact absurd rfl (opens '\x7d' (by rw [same]; rfl))
  · rw [ran]

theorem word_node {fuel : Nat} {c : Char} {word rest : Text} {document : Node}
    (other : c ≠ '"' ∧ c ≠ '[' ∧ c ≠ '\x7b')
    (known : word? (c :: (word ++ rest)) = some (document, rest)) :
    Json.node (fuel + 1) room (c :: word ++ rest) = .ok (document, rest) := by
  rw [List.cons_append, node_scalar other.1 other.2.1 other.2.2]
  simp only [scalar, known]

/-- A text that opens a node leaves fuel for a step. -/
theorem read_by_step {s : Text} {document : Node} (opens : Opens s)
    (step : ∀ fuel rest, 2 * s.length ≤ fuel + 1 -> Breaks rest ->
      Json.node (fuel + 1) room (s ++ rest) = .ok (document, rest)) : IsRead room s document := by
  intro fuel rest enough breaks
  cases fuel with
  | zero =>
      have some := List.length_pos_iff.mpr opens.nonempty
      omega
  | succ fuel => exact step fuel rest enough breaks

theorem array_read {parts : List Part} (nonempty : parts ≠ [])
    (each : ∀ part ∈ parts, part.Reads room) :
    IsRead (room + 1) ('[' :: List.intercalate [','] (parts.map Part.whole) ++ [']'])
      (.array (parts.map Part.node)) := by
  refine read_by_step (opens_of_head (by decide) _) ?_
  intro fuel rest enough breaks
  have length : 2 * (List.intercalate [','] (parts.map Part.whole)).length < fuel := by
    simp only [List.length_append, List.length_cons, List.length_nil] at enough
    omega
  have ran : items fuel room (skip (List.intercalate [','] (parts.map Part.whole) ++ ']' :: rest)) =
      .ok (parts.map Part.node, rest) := items_read nonempty each length
  rw [List.append_assoc, List.cons_append]
  refine array_node ?_ ran
  cases parts with
  | nil => exact absurd rfl nonempty
  | cons part later =>
      have own := each part List.mem_cons_self
      rw [List.map_cons, Part.whole, joined_opens own.padded.1 own.opens]
      exact own.opens.bracket

theorem object_read {parts : List NamedPart} (nonempty : parts ≠ [])
    (distinct : (parts.map NamedPart.name).Nodup) (each : ∀ member ∈ parts, member.Reads room) :
    IsRead (room + 1) ('\x7b' :: List.intercalate [','] (parts.map NamedPart.whole) ++ ['\x7d'])
      (.object (parts.map NamedPart.entry)) := by
  refine read_by_step (opens_of_head (by decide) _) ?_
  intro fuel rest enough breaks
  have length : 2 * (List.intercalate [','] (parts.map NamedPart.whole)).length < fuel := by
    simp only [List.length_append, List.length_cons, List.length_nil] at enough
    omega
  have ran : members fuel room
      (skip (List.intercalate [','] (parts.map NamedPart.whole) ++ '\x7d' :: rest)) =
      .ok (parts.map NamedPart.entry, rest) := members_read nonempty each length
  have kept : Node.ofMembers (parts.map NamedPart.entry) = .object (parts.map NamedPart.entry) := by
    have names : (parts.map NamedPart.entry).map Prod.fst = parts.map NamedPart.name := by
      rw [List.map_map]
      rfl
    rw [Node.ofMembers, Members.of_list_distinct (names ▸ distinct)]
  rw [List.append_assoc, List.cons_append, ← kept]
  refine object_node ?_ ran
  cases parts with
  | nil => exact absurd rfl nonempty
  | cons member later =>
      have own := each member List.mem_cons_self
      have opened := quotes_open own.quotes
      rw [List.map_cons, NamedPart.whole, joined_opens own.padded.before opened]
      exact opened.brace

/-- What the grammar derives is read as the node that it denotes. -/
theorem denotes_read {s : Text} {document : Node} (denotes : Denotes room s document) :
    IsRead room s document := by
  have opens := denotes_opens denotes
  induction denotes with
  | null => exact read_by_step opens fun fuel rest _ _ => word_node (by decide) rfl
  | bool b =>
      cases b with
      | true => exact read_by_step opens fun fuel rest _ _ => word_node (by decide) rfl
      | false => exact read_by_step opens fun fuel rest _ _ => word_node (by decide) rfl
  | number valid => exact read_by_step opens fun fuel rest _ breaks => number_node valid breaks
  | text quotes => exact read_by_step opens fun fuel rest _ _ => string_node quotes
  | emptyArray blank =>
      refine read_by_step opens fun fuel rest _ _ => ?_
      rw [List.append_assoc, List.cons_append, List.singleton_append]
      simp only [node, skip_to_mark blank (c := ']') rfl]
  | array nonempty padded each ih =>
      refine array_read nonempty fun part member => ?_
      have opened := denotes_opens (each part member)
      exact ⟨padded part member, opened, ih part member opened⟩
  | emptyObject blank =>
      refine read_by_step opens fun fuel rest _ _ => ?_
      rw [List.append_assoc, List.cons_append, List.singleton_append]
      simp only [node, skip_to_mark blank (c := '\x7d') rfl]
  | object nonempty padded quotes distinct each ih =>
      refine object_read nonempty distinct fun part member => ?_
      have opened := denotes_opens (each part member)
      exact ⟨padded part member, quotes part member, opened, ih part member opened⟩

/-- Every document of the grammar is read, and as the document that it is. -/
theorem document_read {s : Text} {document : Node} (found : IsDocument s document) :
    read s = .ok document := by
  obtain ⟨part, ⟨before, after⟩, rfl, rfl, denotes⟩ := found
  have opens := denotes_opens denotes
  have unmarked : startsWithMark part.whole = false := by
    rw [startsWithMark, decide_eq_false_iff_not, Part.whole]
    intro marked
    cases blanks : part.before with
    | nil =>
        rw [blanks, List.nil_append, List.head?_append_of_ne_nil _ opens.nonempty] at marked
        exact opens.mark _ marked rfl
    | cons c later =>
        rw [blanks] at marked
        cases marked
        exact absurd (before _ (blanks ▸ List.mem_cons_self)) (by decide)
  have ends : Breaks part.after := by
    have nothing : Breaks [] := nofun
    simpa using blanks_break after nothing
  have long : 2 * part.text.length ≤ 2 * part.whole.length + 2 := by
    simp only [Part.whole, List.length_append]
    omega
  have spent : skip part.after = [] := List.dropWhile_eq_nil_iff.mpr after
  have read := denotes_read denotes (2 * part.whole.length + 2) part.after long ends
  have reached : skip part.whole = part.text ++ part.after := skip_blanks before opens part.after
  simp only [Json.read, unmarked, reached, read, spent]
  rfl

/-- A text is one document at most. -/
theorem document_unique {s : Text} {document other : Node} (found : IsDocument s document)
    (again : IsDocument s other) : other = document :=
  Except.ok.inj ((document_read again).symm.trans (document_read found))

end

end Json
end SqlPipeline
