import SqlPipeline.Proofs.Sql.Renumbering

/-!
Numbering undone. A numbered text is read back as characters and positions, a position being an
unquoted `?` with the digits after it. What numbering wrote for a name is read back as one position,
because no digit can follow it, so that the names put in the place of their positions give back the
text. A numbered text has no names left, and numbering it again leaves it as it is.
-/

namespace SqlPipeline
namespace Sql

/-- The names in a text in their order: one for each unquoted mark that a word follows. -/
def appearances : Quoting -> Text -> List Text
  | _, [] => []
  | quoting, c :: rest =>
      let word := rest.takeWhile Text.isAsciiWordChar
      (if c = '@' ∧ quoting = .bare ∧ word ≠ [] then ['@' :: word] else [])
        ++ appearances (quoting.step c) rest

/-- No unquoted `?` has an ASCII digit directly after it. -/
def HasNoPosition : Quoting -> Text -> Prop
  | _, [] => True
  | quoting, c :: rest =>
      (c = '?' -> quoting = .bare -> ∀ next ∈ rest.head?, Text.isAsciiDigit next = false) ∧
        HasNoPosition (quoting.step c) rest

instance decidableHasNoPosition :
    (quoting : Quoting) -> (s : Text) -> Decidable (HasNoPosition quoting s)
  | _, [] => isTrue trivial
  | quoting, c :: rest =>
      have : Decidable (HasNoPosition (quoting.step c) rest) :=
        decidableHasNoPosition (quoting.step c) rest
      inferInstanceAs (Decidable (_ ∧ _))

/-- A part of a numbered text. -/
inductive Slot where
  | literal (c : Char)
  | position (digits : Text)
  deriving DecidableEq, Repr

namespace Slot

def number? : Slot -> Option Nat
  | literal _ => none
  | position digits => Text.digits? digits

/-- The name that a position counts, from one on. -/
def name? (names : List Text) (digits : Text) : Option Text :=
  match Text.digits? digits with
  | some (index + 1) => names[index]?
  | _ => none

/-- A position that counts no name stays as it is. -/
def restored (names : List Text) : Slot -> Text
  | literal c => [c]
  | position digits => (name? names digits).getD ('?' :: digits)

end Slot

def slotsFrom (quoting : Quoting) : Text -> List Slot
  | [] => []
  | c :: rest =>
      let digits := rest.takeWhile Text.isAsciiDigit
      if c = '?' ∧ quoting = .bare ∧ digits ≠ [] then
        .position digits :: slotsFrom quoting (rest.dropWhile Text.isAsciiDigit)
      else
        .literal c :: slotsFrom (quoting.step c) rest
termination_by s => s.length
decreasing_by
  · exact Nat.lt_succ_of_le (List.dropWhile_suffix _).length_le
  · exact Nat.lt_succ_self _

def slots (s : Text) : List Slot :=
  slotsFrom .bare s

/-- A text with the names in the place of their positions. -/
def restore (names : List Text) (s : Text) : Text :=
  (slots s).flatMap (Slot.restored names)

/-- The numbers of the positions in a text, in order and as often as they stand in it. -/
def positionsIn (s : Text) : List Nat :=
  (slots s).filterMap Slot.number?

section Appearances

variable {quoting : Quoting} {c : Char} {s word : Text}

theorem appearances_of_word (plain : ∀ c ∈ word, Text.isAsciiWordChar c = true) (rest : Text) :
    appearances quoting (word ++ rest) = appearances quoting rest := by
  induction word with
  | nil => rfl
  | cons c word ih =>
      obtain ⟨head, later⟩ := List.forall_mem_cons.mp plain
      have unmarked : c ≠ '@' := by
        rintro rfl
        exact absurd head (by decide)
      have state : quoting.step c = quoting := by
        apply Quoting.step_plain
        · rintro rfl
          exact absurd head (by decide)
        · rintro rfl
          exact absurd head (by decide)
      rw [List.cons_append, appearances, if_neg fun mark => unmarked mark.1, state, ih later]
      rfl

/-- The names that stand in a text are those that it is read with. -/
theorem appearances_eq (quoting : Quoting) (s : Text) :
    appearances quoting s = (fragmentsFrom quoting s).filterMap Fragment.name? := by
  fun_induction fragmentsFrom quoting s with
  | case1 => rfl
  | case2 quoting c rest word found ih =>
      have state : quoting.step c = quoting := by
        rw [found.1]
        exact Quoting.step_plain (by decide) (by decide)
      have behind : appearances quoting rest =
          appearances quoting (rest.dropWhile Text.isAsciiWordChar) := by
        have plain : ∀ d ∈ rest.takeWhile Text.isAsciiWordChar, Text.isAsciiWordChar d = true :=
          fun d => List.mem_takeWhile_imp
        have read := @appearances_of_word quoting _ plain (rest.dropWhile Text.isAsciiWordChar)
        rwa [List.takeWhile_append_dropWhile] at read
      rw [appearances, if_pos found, state, behind, ih]
      rfl
  | case3 quoting c rest word missing ih =>
      rw [appearances, if_neg missing, ih]
      rfl

theorem names_eq (sql : Text) : (number sql).names = (appearances .bare sql).eraseDups := by
  rw [appearances_eq]
  rfl

/-- First appearances stand in the order of their places. The induction adds one item at the end,
which is a first appearance exactly when it is new. -/
theorem erased_ordered (items : List Text) :
    items.eraseDups.Pairwise fun first second => items.idxOf first < items.idxOf second := by
  induction items using List.reverseRecOn with
  | nil => exact .nil
  | append_singleton items item ih =>
      have kept : ∀ other ∈ items.eraseDups, (items ++ [item]).idxOf other = items.idxOf other := by
        intro other member
        exact List.idxOf_append_of_mem (List.mem_eraseDups.mp member)
      have before : items.eraseDups.Pairwise fun first second =>
          (items ++ [item]).idxOf first < (items ++ [item]).idxOf second := by
        refine ih.imp_of_mem fun {first second} memberFirst memberSecond below => ?_
        rwa [kept first memberFirst, kept second memberSecond]
      rw [List.eraseDups_append]
      by_cases old : item ∈ items
      · have nothing : [item].removeAll items = [] := by simp [List.removeAll, old]
        rw [nothing]
        simpa using before
      · have new : [item].removeAll items = [item] := by simp [List.removeAll, old]
        have alone : [item].eraseDups = [item] := rfl
        rw [new, alone, List.pairwise_append]
        refine ⟨before, List.pairwise_singleton _ _, fun first member second own => ?_⟩
        cases List.mem_singleton.mp own
        have inside := List.idxOf_lt_length_of_mem (List.mem_eraseDups.mp member)
        rw [kept first member, List.idxOf_append_of_notMem old]
        exact Nat.lt_of_lt_of_le inside (Nat.le_add_right _ _)

end Appearances

section Numbered

variable {quoting : Quoting} {s : Text} {names : List Text}

/-- A numbered text starts with a position or as the text itself does. -/
theorem numbered_head (quoting : Quoting) (s : Text) :
    ∀ c ∈ ((fragmentsFrom quoting s).flatMap (positional names)).head?, c = '?' ∨ c ∈ s.head? := by
  intro c head
  cases s with
  | nil =>
      rw [fragmentsFrom] at head
      cases head
  | cons d rest =>
      rw [fragmentsFrom] at head
      split at head
      · exact .inl (Option.some.inj head).symm
      · exact .inr head

/-- What a mark or a word character cannot follow in a text, it cannot follow in the numbered text. -/
theorem numbered_stops {p : Char -> Bool} (mark : p '?' = false)
    (stop : ∀ c ∈ s.head?, p c = false) :
    ∀ c ∈ ((fragmentsFrom quoting s).flatMap (positional names)).head?, p c = false := by
  intro c head
  rcases numbered_head quoting s c head with rfl | own
  · exact mark
  · exact stop c own

/-- A numbered text is read as it stands. -/
theorem fragments_of_numbered (quoting : Quoting) (s : Text) :
    fragmentsFrom quoting ((fragmentsFrom quoting s).flatMap (positional names)) =
      ((fragmentsFrom quoting s).flatMap (positional names)).map .literal := by
  fun_induction fragmentsFrom quoting s with
  | case1 quoting => rw [List.flatMap_nil, fragmentsFrom, List.map_nil]
  | case2 quoting c rest word found ih =>
      have inert := position_mark_inert (names.idxOf ('@' :: word) + 1)
      have hidden : quoting.Hides '@' (positionMark (names.idxOf ('@' :: word) + 1)) := by
        apply Quoting.hides_of_absent
        intro member
        rcases List.mem_cons.mp member with same | digit
        · exact absurd same (by decide)
        · exact absurd (Text.decimal_digits _ _ digit) (by decide)
      have state : quoting.run (positionMark (names.idxOf ('@' :: word) + 1)) = quoting := by
        rw [found.2.1, inert.run]
      have written : positional names (.placeholder ('@' :: word)) =
          positionMark (names.idxOf ('@' :: word) + 1) := rfl
      rw [List.flatMap_cons, written, fragments_of_hidden hidden, state, ih, List.map_append]
  | case3 quoting c rest word missing ih =>
      have unnamed : ¬(c = '@' ∧ quoting = .bare ∧
          ((fragmentsFrom (quoting.step c) rest).flatMap (positional names)).takeWhile
            Text.isAsciiWordChar ≠ []) := by
        rintro ⟨mark, bare, goes⟩
        apply goes
        rw [Text.take_while_nil_iff]
        refine numbered_stops (by decide) (Text.take_while_nil_iff.mp ?_)
        by_contra word
        exact missing ⟨mark, bare, word⟩
      have written : (Fragment.literal c :: fragmentsFrom (quoting.step c) rest).flatMap
          (positional names) = c :: (fragmentsFrom (quoting.step c) rest).flatMap (positional names) :=
        rfl
      rw [written, fragmentsFrom, if_neg unnamed, ih, List.map_cons]

/-- Numbering a numbered text leaves it as it is. -/
theorem number_number (sql : Text) : number (number sql).sql = ⟨(number sql).sql, []⟩ :=
  number_of_literals (fragments_of_numbered .bare sql)

end Numbered

section Slots

variable {quoting : Quoting} {s : Text} {names : List Text}

/-- What is read back in the place of a fragment. -/
def Fragment.slot (names : List Text) : Fragment -> Slot
  | literal c => .literal c
  | placeholder name => .position (Text.decimal (names.idxOf name + 1))

theorem HasNoPosition.behind {word rest : Text} (free : HasNoPosition quoting (word ++ rest)) :
    HasNoPosition (quoting.run word) rest := by
  induction word generalizing quoting with
  | nil => exact free
  | cons c word ih => exact ih free.2

/-- Each position is read back as it was written, and nothing else is. -/
theorem slots_of_numbered (free : HasNoPosition quoting s) :
    slotsFrom quoting ((fragmentsFrom quoting s).flatMap (positional names)) =
      (fragmentsFrom quoting s).map (Fragment.slot names) := by
  fun_induction fragmentsFrom quoting s with
  | case1 quoting => rw [List.flatMap_nil, slotsFrom, List.map_nil]
  | case2 quoting c rest word found ih =>
      obtain ⟨rfl, rfl, nonempty⟩ := found
      have later : HasNoPosition .bare (rest.dropWhile Text.isAsciiWordChar) := by
        have whole : rest = word ++ rest.dropWhile Text.isAsciiWordChar :=
          List.takeWhile_append_dropWhile.symm
        have state : Quoting.bare.run word = .bare :=
          Quoting.run_plain (P := fun c => Text.isAsciiWordChar c = true) (by decide) (by decide)
            fun c => List.mem_takeWhile_imp
        have behind : HasNoPosition .bare rest := free.2
        rw [whole] at behind
        rw [← state]
        exact behind.behind
      -- The word ends before the first character that is no word character, so no digit follows.
      have stop : ∀ c ∈ ((fragmentsFrom .bare (rest.dropWhile Text.isAsciiWordChar)).flatMap
          (positional names)).head?, Text.isAsciiDigit c = false := by
        refine numbered_stops (by decide) fun c head => ?_
        have ends := Text.drop_while_head c head
        rw [Text.isAsciiWordChar, Bool.or_eq_false_iff] at ends
        exact ends.2
      have digits := Text.decimal_digits (names.idxOf ('@' :: word) + 1)
      have taken := Text.take_while_run _ digits stop
      have left := Text.drop_while_run _ digits stop
      have read : '?' = '?' ∧ Quoting.bare = .bare ∧
          Text.decimal (names.idxOf ('@' :: word) + 1) ≠ [] :=
        ⟨rfl, rfl, Text.decimal_ne_nil _⟩
      rw [List.flatMap_cons, positional, List.cons_append, slotsFrom, taken, left, if_pos read,
        ih later]
      rfl
  | case3 quoting c rest word missing ih =>
      have plain : ¬(c = '?' ∧ quoting = .bare ∧
          ((fragmentsFrom (quoting.step c) rest).flatMap (positional names)).takeWhile
            Text.isAsciiDigit ≠ []) := by
        rintro ⟨mark, bare, digits⟩
        apply digits
        rw [Text.take_while_nil_iff]
        exact numbered_stops (by decide) (free.1 mark bare)
      have written : (Fragment.literal c :: fragmentsFrom (quoting.step c) rest).flatMap
          (positional names) = c :: (fragmentsFrom (quoting.step c) rest).flatMap (positional names) :=
        rfl
      rw [written, slotsFrom, if_neg plain, ih free.2]
      rfl

theorem name_of_position {name : Text} (member : name ∈ names) :
    Slot.name? names (Text.decimal (names.idxOf name + 1)) = some name := by
  rw [Slot.name?, Text.digits_decimal]
  exact List.getElem?_idxOf member

/-- The names in the place of their positions give back the text. -/
theorem restore_number {sql : Text} (free : HasNoPosition .bare sql) :
    restore (number sql).names (number sql).sql = sql := by
  have each : ∀ fragment ∈ fragments sql,
      (fragment.slot (number sql).names).restored (number sql).names = fragment.text := by
    intro fragment member
    cases fragment with
    | literal c => rfl
    | placeholder name =>
        rw [Fragment.slot, Slot.restored, name_of_position (mem_names_iff.mpr member)]
        rfl
  calc restore (number sql).names (number sql).sql
      = ((fragments sql).map (Fragment.slot (number sql).names)).flatMap
          (Slot.restored (number sql).names) :=
        congrArg (List.flatMap (Slot.restored (number sql).names)) (slots_of_numbered free)
    _ = (fragments sql).flatMap Fragment.text := by
        rw [List.flatMap_map]
        exact List.flatMap_congr each
    _ = sql := fragmentsFrom_text .bare sql

/-- The positions of a numbered text are those from one up to the number of its names. -/
theorem positions_of_number {sql : Text} (free : HasNoPosition .bare sql) (k : Nat) :
    k ∈ positionsIn (number sql).sql ↔ 1 ≤ k ∧ k ≤ (number sql).names.length := by
  have read : positionsIn (number sql).sql =
      (mentioned sql).map fun name => (number sql).names.idxOf name + 1 := by
    have back : slots (number sql).sql =
        (fragments sql).map (Fragment.slot (number sql).names) := slots_of_numbered free
    rw [positionsIn, back, List.filterMap_map, mentioned, List.map_filterMap]
    refine List.filterMap_congr fun fragment _ => ?_
    cases fragment with
    | literal c => rfl
    | placeholder name => exact Text.digits_decimal _
  have same : ∀ name, name ∈ mentioned sql ↔ name ∈ (number sql).names :=
    fun name => List.mem_eraseDups.symm
  rw [read, List.mem_map]
  constructor
  · rintro ⟨name, member, rfl⟩
    have inside := List.idxOf_lt_length_of_mem ((same name).mp member)
    omega
  · rintro ⟨first, last⟩
    have inside : k - 1 < (number sql).names.length := by omega
    refine ⟨(number sql).names[k - 1], (same _).mpr (List.getElem_mem inside), ?_⟩
    have distinct : (number sql).names.Nodup := erased_distinct _
    rw [distinct.idxOf_getElem (k - 1) inside]
    omega

end Slots

/-- The names of a numbered text are distinct and stand in the order in which they first appear
outside quotes, each a mark with a word of ASCII. Numbering again changes nothing and finds no name.
Where no position stood in the text before, each position of the numbered text counts one of the
names, all of them are counted, and the names in the place of their positions give back the text. -/
theorem numbering_reverses (sql : Text) :
    ((number sql).names.Nodup ∧ (∀ name ∈ (number sql).names, IsPlaceholder name) ∧
      (∀ name, name ∈ (number sql).names ↔ name ∈ appearances .bare sql) ∧
      (number sql).names.Pairwise fun first second =>
        (appearances .bare sql).idxOf first < (appearances .bare sql).idxOf second) ∧
    number (number sql).sql = ⟨(number sql).sql, []⟩ ∧
    (HasNoPosition .bare sql ->
      restore (number sql).names (number sql).sql = sql ∧
        ∀ k, k ∈ positionsIn (number sql).sql ↔ 1 ≤ k ∧ k ≤ (number sql).names.length) := by
  refine ⟨⟨erased_distinct _, ?_, ?_, ?_⟩, number_number sql, ?_⟩
  · intro name member
    exact placeholder_of_fragment .bare (mem_names_iff.mp member)
  · intro name
    rw [names_eq, List.mem_eraseDups]
  · rw [names_eq]
    exact erased_ordered _
  · intro free
    exact ⟨restore_number free, positions_of_number free⟩

/-- A name that is used twice, quoted marks, and marks that name nothing. -/
def markedText : Text :=
  "UPDATE t SET a = @v, b = '?1 @w', c = @ || ? WHERE d = @id AND e = ?@v"

theorem numbering_reverses_marked :
    HasNoPosition .bare markedText ∧
      restore (number markedText).names (number markedText).sql = markedText ∧
        ∀ k, k ∈ positionsIn (number markedText).sql ↔
          1 ≤ k ∧ k ≤ (number markedText).names.length := by
  have free : HasNoPosition .bare markedText := by decide
  exact ⟨free, (numbering_reverses markedText).2.2 free⟩

end Sql
end SqlPipeline
