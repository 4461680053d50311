import SqlPipeline.Text.LetterCase
import SqlPipeline.Proofs.Text.Decimal

/-!
Lower case is read off character by character, from the left, so that what stands behind a text only
follows what becomes of it, and a text gets longer by its dotted capitals alone. Digits and
underscores are left as they are, and no character becomes a digit or a mark of ASCII that it is
not. Where the lower case of a text starts with a mark of ASCII, the mark stands there one character
for one.
-/

namespace SqlPipeline
namespace Text

theorem lower_after_append (before s t : Text) :
    ∃ stem, lowerAfter before (s ++ t) = stem ++ lowerAfter (s.reverse ++ before) t := by
  induction s generalizing before with
  | nil => exact ⟨[], rfl⟩
  | cons c rest ih =>
      obtain ⟨stem, lowered⟩ := ih (c :: before)
      refine ⟨lowerBetween before (rest ++ t) c ++ stem, ?_⟩
      rw [List.cons_append, lowerAfter, lowered, List.reverse_cons, List.append_assoc,
        List.append_assoc]
      rfl

/-- A character that has no lower case of its own, whatever stands around it. -/
def IsUncased (c : Char) : Prop :=
  c ≠ 'Σ' ∧ c ≠ 'İ' ∧ lowerChar c = c

theorem lower_after_of_uncased {s : Text} (uncased : ∀ c ∈ s, IsUncased c) (before : Text) :
    lowerAfter before s = s := by
  induction s generalizing before with
  | nil => rfl
  | cons c rest ih =>
      obtain ⟨notSigma, notDotted, same⟩ := uncased c List.mem_cons_self
      have later := ih fun d member => uncased d (List.mem_cons_of_mem c member)
      rw [lowerAfter, lowerBetween, if_neg notSigma, if_neg notDotted, same, later]
      rfl

theorem uncased_digit {c : Char} (digit : isAsciiDigit c = true) : IsUncased c :=
  digit_cases (P := IsUncased) (by unfold IsUncased; decide) digit

theorem uncased_mark : IsUncased '_' := by
  unfold IsUncased
  decide

/-- A number behind a mark stays as it is. -/
theorem lower_numbered (base : Text) (number : Nat) :
    ∃ stem, lower (base ++ '_' :: decimal number) = stem ++ '_' :: decimal number := by
  obtain ⟨stem, lowered⟩ := lower_after_append [] base ('_' :: decimal number)
  have uncased : ∀ c ∈ '_' :: decimal number, IsUncased c := by
    intro c member
    rcases List.mem_cons.mp member with rfl | member
    · exact uncased_mark
    · exact uncased_digit (decimal_digits number c member)
  refine ⟨stem, ?_⟩
  rw [lower, lowered, lower_after_of_uncased uncased]

/-- A character becomes one character, or two if it is the dotted capital. -/
theorem length_lower_between (before after : Text) (c : Char) :
    (lowerBetween before after c).length = 1 + if c == 'İ' then 1 else 0 := by
  rw [lowerBetween]
  by_cases sigma : c = 'Σ'
  · have undotted : ¬(c == 'İ') = true := by
      rw [sigma]
      decide
    rw [if_pos sigma, if_neg undotted]
    split
    · rfl
    · rfl
  · rw [if_neg sigma]
    by_cases dotted : c = 'İ'
    · rw [if_pos dotted, if_pos (beq_iff_eq.mpr dotted)]
      rfl
    · rw [if_neg dotted, if_neg fun same => dotted (beq_iff_eq.mp same)]
      rfl

theorem length_lower_after (before s : Text) :
    (lowerAfter before s).length = s.length + s.count 'İ' := by
  induction s generalizing before with
  | nil => rfl
  | cons c rest ih =>
      rw [lowerAfter, List.length_append, length_lower_between, ih, List.length_cons,
        List.count_cons]
      omega

/-- What stands behind a text adds to the length of its lower case. -/
theorem length_lower_append (s t : Text) :
    (lower (s ++ t)).length = (lower s).length + (lower t).length := by
  simp only [lower, length_lower_after, List.length_append, List.count_append]
  omega

/-- Every run of letters leads to characters, and to none before the small letters of ASCII. -/
theorem lower_run_bounds : ∀ run ∈ lowerRuns,
    'a'.toNat ≤ run.first + run.shift ∧ (run.last + run.shift < 0xd800 ∨
      0xdfff < run.first + run.shift ∧ run.last + run.shift < 0x110000) := by
  decide +kernel

/-- Of the runs outside of ASCII only that of the Kelvin sign leads into it. -/
theorem lower_run_apart : ∀ run ∈ lowerRuns,
    run.last < 128 ∨ 128 ≤ run.first + run.shift ∨
      run.first + run.shift = 'k'.toNat ∧ run.last = run.first := by
  decide +kernel

/-- A character stays as it is, or goes where the run that has it leads to. -/
theorem mapped_cases (c : Char) :
    mapped lowerRuns c = c ∨ ∃ run ∈ lowerRuns, (run.first ≤ c.toNat ∧ c.toNat ≤ run.last) ∧
      ((mapped lowerRuns c).toNat : Int) = c.toNat + run.shift := by
  unfold mapped
  split
  · rename_i run found
    have member := List.mem_of_find?_eq_some found
    have bounds := lower_run_bounds run member
    have inside := List.find?_some found
    simp only [CaseRun.has, Bool.and_eq_true, decide_eq_true_eq] at inside
    have valid : (c.toNat + run.shift).toNat.isValidChar := by
      unfold Nat.isValidChar
      omega
    have code : (Char.ofNat (c.toNat + run.shift).toNat).toNat = (c.toNat + run.shift).toNat := by
      rw [Char.ofNat, dif_pos valid]
      rfl
    exact .inr ⟨run, member, inside.1, by omega⟩
  · exact .inl rfl

theorem low_of_mapped {c : Char} (low : (mapped lowerRuns c).toNat < 'a'.toNat) :
    mapped lowerRuns c = c := by
  rcases mapped_cases c with same | ⟨run, member, inside, code⟩
  · exact same
  · have bounds := lower_run_bounds run member
    omega

/-- What comes before the small letters in ASCII is in lower case as it stands. -/
theorem lower_char_of_low {c : Char} (low : (lowerChar c).toNat < 'a'.toNat) : lowerChar c = c := by
  unfold lowerChar at low ⊢
  by_cases ascii : isAscii c = true
  · rw [if_pos ascii] at low ⊢
    have settled := ascii_cases (P := fun c => c.toLower.toNat < 'a'.toNat -> c.toLower = c)
      (by decide) (of_decide_eq_true ascii)
    exact settled low
  · rw [if_neg ascii] at low ⊢
    exact low_of_mapped low

/-- A character of ASCII is the lower case of no character outside of it, except for the k. -/
theorem ascii_of_lower {c : Char} (ascii : isAscii (lowerChar c) = true)
    (other : lowerChar c ≠ 'k') : isAscii c = true := by
  rw [← Bool.not_eq_false]
  intro outside
  rw [lowerChar, outside, if_neg Bool.false_ne_true] at ascii other
  simp only [isAscii, decide_eq_true_eq, decide_eq_false_iff_not] at ascii outside
  rcases mapped_cases c with same | ⟨run, member, inside, code⟩
  · exact outside (same ▸ ascii)
  · have apart := lower_run_apart run member
    have notKelvin : (mapped lowerRuns c).toNat ≠ 'k'.toNat := fun same =>
      other (Char.toNat_inj.mp same)
    omega

/-- Only the capitals of ASCII have a small letter in ASCII. -/
theorem lower_of_code {c : Char} (other : c.toNat < 0x41 ∨ 0x5a < c.toNat) : c.toLower = c := by
  refine dif_neg ?_
  rintro ⟨first, last⟩
  have lower : 0x41 ≤ c.toNat := first
  have upper : c.toNat ≤ 0x5a := last
  omega

theorem ascii_of_to_lower {c : Char} (ascii : isAscii c.toLower = true) : isAscii c = true := by
  rw [← Bool.not_eq_false]
  intro outside
  simp only [isAscii, decide_eq_true_eq, decide_eq_false_iff_not] at ascii outside
  rw [lower_of_code (by omega)] at ascii
  exact outside ascii

/-- A text of ASCII is lowered letter by letter, whatever stands around it. -/
theorem lower_after_ascii {s : Text} (ascii : ∀ c ∈ s, isAscii c = true) (before t : Text) :
    lowerAfter before (s ++ t) = s.map Char.toLower ++ lowerAfter (s.reverse ++ before) t := by
  induction s generalizing before with
  | nil => rfl
  | cons c rest ih =>
      obtain ⟨first, later⟩ := List.forall_mem_cons.mp ascii
      have notSigma : c ≠ 'Σ' := by
        rintro rfl
        cases first
      have notDotted : c ≠ 'İ' := by
        rintro rfl
        cases first
      rw [List.cons_append, lowerAfter, ih later, lowerBetween, if_neg notSigma, if_neg notDotted,
        lowerChar, if_pos first, List.reverse_cons, List.append_assoc]
      rfl

/-- Spellings of one text of ASCII have the same lower case. -/
theorem lower_of_spelling {spelling small : Text} (ascii : ∀ c ∈ small, isAscii c = true)
    (spelled : spelling.map Char.toLower = small) : lower spelling = small := by
  have each : ∀ c ∈ spelling, isAscii c = true := fun c member =>
    ascii_of_to_lower (ascii _ (spelled ▸ List.mem_map_of_mem member))
  have lowered := lower_after_ascii each [] []
  rw [List.append_nil] at lowered
  exact (lowered.trans (List.append_nil _)).trans spelled

/-- A character of ASCII comes of one character. A dotted capital becomes two, the second of which
is not ASCII. -/
theorem lower_between_starts {m c : Char} {mark before after t : Text}
    (ascii : ∀ d ∈ m :: mark, isAscii d = true) (last : mark = [] -> m ≠ 'i')
    (starts : m :: mark <+: lowerBetween before after c ++ t) : lowerChar c = m ∧ mark <+: t := by
  have first : isAscii m = true := ascii m List.mem_cons_self
  rw [lowerBetween] at starts
  by_cases sigma : c = 'Σ'
  · rw [if_pos sigma] at starts
    split at starts
    · cases (List.cons_prefix_cons.mp starts).1
      cases first
    · cases (List.cons_prefix_cons.mp starts).1
      cases first
  · by_cases dotted : c = 'İ'
    · rw [if_neg sigma, if_pos dotted] at starts
      obtain ⟨rfl, second⟩ := List.cons_prefix_cons.mp starts
      cases mark with
      | nil => exact absurd rfl (last rfl)
      | cons d mark =>
          obtain ⟨rfl, _⟩ := List.cons_prefix_cons.mp second
          cases ascii '\u0307' (by simp)
    · rw [if_neg sigma, if_neg dotted] at starts
      obtain ⟨same, later⟩ := List.cons_prefix_cons.mp starts
      exact ⟨same.symm, later⟩

/-- A mark of ASCII that the lower case of a text starts with stands in the text one character for
one. -/
theorem lower_starts {mark before s : Text} (ascii : ∀ c ∈ mark, isAscii c = true)
    (last : mark.getLast? ≠ some 'i') (starts : mark <+: lowerAfter before s) :
    mark.length ≤ s.length ∧ (s.take mark.length).map lowerChar = mark := by
  induction mark generalizing before s with
  | nil => exact ⟨Nat.zero_le _, rfl⟩
  | cons m mark ih =>
      cases s with
      | nil => exact absurd (List.prefix_nil.mp starts) (List.cons_ne_nil m mark)
      | cons c rest =>
          have single : mark = [] -> m ≠ 'i' := by
            rintro rfl rfl
            exact last rfl
          obtain ⟨same, later⟩ := lower_between_starts ascii single starts
          have lastLater : mark.getLast? ≠ some 'i' := by
            intro final
            apply last
            rw [List.getLast?_cons, final]
            rfl
          obtain ⟨long, rest⟩ := ih (List.forall_mem_cons.mp ascii).2 lastLater later
          refine ⟨Nat.succ_le_succ long, ?_⟩
          rw [List.length_cons, List.take_succ_cons, List.map_cons, same, rest]

end Text
end SqlPipeline
