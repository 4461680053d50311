import SqlPipeline.Text.Basic

/-!
Where a position of SQL text stands with respect to quotes. A quote opens a span and the same
character closes it, so a doubled quote inside a literal closes the span and opens it again.
-/

namespace SqlPipeline
namespace Sql

inductive Quoting where
  | bare
  | single
  | double
  deriving DecidableEq, Repr

namespace Quoting

def step : Quoting -> Char -> Quoting
  | bare, '\'' => single
  | bare, '"' => double
  | single, '\'' => bare
  | double, '"' => bare
  | quoting, _ => quoting

/-- The state after every character of a text. -/
def run (quoting : Quoting) (s : Text) : Quoting :=
  s.foldl step quoting

@[simp] theorem run_nil (quoting : Quoting) : quoting.run [] = quoting := rfl

@[simp] theorem run_cons (quoting : Quoting) (c : Char) (s : Text) :
    quoting.run (c :: s) = (quoting.step c).run s := rfl

theorem run_append (quoting : Quoting) (s t : Text) :
    quoting.run (s ++ t) = (quoting.run s).run t := by
  simp [run]

end Quoting
end Sql
end SqlPipeline
