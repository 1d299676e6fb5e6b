import Loadout.Run
import Loadout.Value.Wording

/-! # Weights, labels and tables

What a solver is told about its vertices besides their conflicts.  A weight is used in two ways: two
weights are compared as they are, or they are read as numbers, which can be added up.  How a table is
laid out as text is left open; the text is not kept, but laying it out may fail.
-/

namespace Loadout

variable {τ α ω φ : Type}

/-- A weight function, and the two uses of what it answers. -/
structure Weighing (τ α ω φ : Type) where
  weigh : α → Call τ ω
  /-- Whether the first weight is at least the second. -/
  atLeast : ω → ω → Except Failure Bool
  measure : ω → Except Failure φ

namespace Weighing

/-- The weight of a vertex as a number. -/
def number (w : Weighing τ α ω φ) (v : α) : Call τ φ := do
  let answer ← w.weigh v
  .ofExcept (w.measure answer)

/-- Weights that are numbers and known beforehand. -/
def known [LE φ] [DecidableLE φ] (weight : α → φ) : Weighing τ α φ φ where
  weigh v := pure (weight v)
  atLeast a b := .ok (b ≤ a)
  measure a := .ok a

@[simp] theorem number_known [LE φ] [DecidableLE φ] (weight : α → φ) (v : α) :
    (known weight : Weighing τ α φ φ).number v = pure (weight v) := rfl

end Weighing

/-- The texts of vertices and weights in a journal. -/
structure Labels (τ α φ : Type) where
  vertex : α → Call τ String
  weight : φ → String

namespace Labels

/-- The text of a selection: the labels of its vertices, in braces. -/
def selection (labels : Labels τ α φ) (selected : List α) : Call τ String :=
  braced <$> selected.mapM labels.vertex

end Labels

/-- What lays out rows of texts under heads as a table. -/
abbrev Tabulator := (heads : List String) → (rows : List (List String)) → Except Failure Unit

/-- Write a table, which is laid out before it is recorded. -/
def Tabulator.write (tabulate : Tabulator) (heads : List String) (rows : List (List String)) :
    Run τ Unit := do
  Run.ofExcept (tabulate heads rows)
  Run.write (.table heads rows)

end Loadout
