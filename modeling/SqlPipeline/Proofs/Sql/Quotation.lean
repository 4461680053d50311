import SqlPipeline.Sql.Quoting
import SqlPipeline.Text.Blank

/-!
What quotes hide. A text hides a mark when the mark stands in it inside quotes only. A literal, with
its own quote doubled inside it, hides every mark but its quote, whatever it says, and what comes
after it is read as if the literal were not there.
-/

namespace SqlPipeline
namespace Sql
namespace Quoting

/-- No occurrence of a mark in a text stands outside quotes. -/
def Hides (mark : Char) : Quoting -> Text -> Prop
  | _, [] => True
  | quoting, c :: s => (quoting = .bare -> c ≠ mark) ∧ (quoting.step c).Hides mark s

instance decidableHides (mark : Char) :
    (quoting : Quoting) -> (s : Text) -> Decidable (quoting.Hides mark s)
  | _, [] => isTrue trivial
  | quoting, c :: s =>
      have : Decidable ((quoting.step c).Hides mark s) := decidableHides mark (quoting.step c) s
      inferInstanceAs (Decidable (_ ∧ _))

variable {mark : Char} {quoting : Quoting} {s t : Text}

theorem hides_append :
    quoting.Hides mark (s ++ t) ↔ quoting.Hides mark s ∧ (quoting.run s).Hides mark t := by
  induction s generalizing quoting with
  | nil => simp [Hides]
  | cons c s ih => simp [Hides, ih, and_assoc]

theorem hides_of_absent (absent : mark ∉ s) : quoting.Hides mark s := by
  induction s generalizing quoting with
  | nil => trivial
  | cons c s ih =>
      simp only [List.mem_cons, not_or] at absent
      exact ⟨fun _ same => absent.1 same.symm, ih absent.2⟩

/-- The state after one more character that is no quote. -/
theorem step_plain {c : Char} (single : c ≠ '\'') (double : c ≠ '"') : quoting.step c = quoting := by
  cases quoting <;> simp [step, single, double]

/-- A text of characters of a class that has no quotes leaves the state as it is. -/
theorem run_plain {P : Char -> Prop} (single : ¬P '\'') (double : ¬P '"') (all : ∀ c ∈ s, P c) :
    quoting.run s = quoting := by
  induction s with
  | nil => rfl
  | cons c s ih =>
      have head := all c List.mem_cons_self
      have noSingle : c ≠ '\'' := fun same => single (same ▸ head)
      have noDouble : c ≠ '"' := fun same => double (same ▸ head)
      rw [run_cons, step_plain noSingle noDouble]
      exact ih fun d member => all d (List.mem_cons_of_mem c member)

end Quoting

theorem blanks_run {before : Text} (blank : ∀ c ∈ before, Text.isBlank c = true)
    (quoting : Quoting) : quoting.run before = quoting :=
  Quoting.run_plain (by decide) (by decide) blank

def IsQuote (c : Char) : Prop :=
  c = '\'' ∨ c = '"'

/-- Each quote of one kind written twice. -/
def doubled (quote : Char) (content : Text) : Text :=
  content.flatMap fun c => if c = quote then [quote, quote] else [c]

/-- A content between quotes, each quote of the same kind in it written twice. -/
def literal (quote : Char) (content : Text) : Text :=
  quote :: doubled quote content ++ [quote]

section Literal

variable {quote mark : Char} (isQuote : IsQuote quote)
include isQuote

theorem opened_ne_bare : Quoting.bare.step quote ≠ .bare := by
  rcases isQuote with rfl | rfl <;> decide

theorem closed_eq_bare : (Quoting.bare.step quote).step quote = .bare := by
  rcases isQuote with rfl | rfl <;> rfl

/-- Inside a literal only its own quote counts. -/
theorem opened_step {c : Char} (other : c ≠ quote) :
    (Quoting.bare.step quote).step c = Quoting.bare.step quote := by
  rcases isQuote with rfl | rfl
  · change Quoting.single.step c = .single
    simp [Quoting.step, other]
  · change Quoting.double.step c = .double
    simp [Quoting.step, other]

/-- A quote that stands twice closes the literal and opens it again, so that the state inside is the
same after each character of the content. -/
theorem opened_run (content : Text) :
    (Quoting.bare.step quote).run (doubled quote content) = Quoting.bare.step quote := by
  induction content with
  | nil => rfl
  | cons c content ih =>
      rw [doubled, List.flatMap_cons, ← doubled, Quoting.run_append]
      by_cases same : c = quote
      · rw [if_pos same, Quoting.run_cons, Quoting.run_cons, Quoting.run_nil,
          closed_eq_bare isQuote, ih]
      · rw [if_neg same, Quoting.run_cons, Quoting.run_nil, opened_step isQuote same, ih]

theorem opened_hides (other : mark ≠ quote) (content : Text) :
    (Quoting.bare.step quote).Hides mark (doubled quote content) := by
  have opened := opened_ne_bare isQuote
  induction content with
  | nil => trivial
  | cons c content ih =>
      rw [doubled, List.flatMap_cons, ← doubled, Quoting.hides_append]
      by_cases same : c = quote
      · rw [if_pos same]
        refine ⟨⟨fun bare => absurd bare opened, fun _ => other.symm, trivial⟩, ?_⟩
        rwa [Quoting.run_cons, Quoting.run_cons, Quoting.run_nil, closed_eq_bare isQuote]
      · rw [if_neg same]
        refine ⟨⟨fun bare => absurd bare opened, trivial⟩, ?_⟩
        rwa [Quoting.run_cons, Quoting.run_nil, opened_step isQuote same]

theorem literal_run (content : Text) : Quoting.bare.run (literal quote content) = .bare := by
  rw [literal, List.cons_append, Quoting.run_cons, Quoting.run_append, opened_run isQuote,
    Quoting.run_cons, Quoting.run_nil, closed_eq_bare isQuote]

theorem literal_hides (other : mark ≠ quote) (content : Text) :
    Quoting.bare.Hides mark (literal quote content) := by
  rw [literal, List.cons_append]
  refine ⟨fun _ => other.symm, Quoting.hides_append.mpr ⟨opened_hides isQuote other content, ?_⟩⟩
  rw [opened_run isQuote]
  exact ⟨fun _ => other.symm, trivial⟩

end Literal

end Sql
end SqlPipeline
