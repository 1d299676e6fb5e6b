import Loadout.Graph.Adjacency
import Loadout.Selection.Basic

/-! # Exhaustive search

A heaviest set of vertices without conflicts, found by going through all such sets.  The vertices
are decided one after the other, each first taken, if it conflicts with none that was taken before,
and then left out.  A selection replaces the best one so far only if it is strictly heavier, and the
search starts from the empty selection of weight zero; so of several heaviest selections the first
one wins.
-/

namespace Loadout

/-- A selection of indices, in ascending order, and its weight. -/
structure Choice (φ : Type) where
  weight : φ
  members : List Nat

/-- The best selection so far, and the selections that were the best before it and it, latest
first. -/
structure Progress (φ : Type) where
  best : Choice φ
  improvements : List (Choice φ)

namespace Progress

variable {φ : Type}

/-- The beginning of a search. -/
def start [Zero φ] : Progress φ :=
  ⟨⟨0, []⟩, []⟩

/-- Consider a selection. -/
def consider [LT φ] [DecidableLT φ] (p : Progress φ) (c : Choice φ) : Progress φ :=
  if p.best.weight < c.weight then ⟨c, c :: p.improvements⟩ else p

end Progress

/-- Decide the remaining indices, which are given with their weights, after some have been
selected.  `conflict i j` tells whether `i` conflicts with an earlier `j`. -/
def searchFrom {φ : Type} [Add φ] [LT φ] [DecidableLT φ] (conflict : Nat → Nat → Bool) :
    List (φ × Nat) → Choice φ → Progress φ → Progress φ
  | [], selected, progress => progress.consider selected
  | (weight, i) :: rest, selected, progress =>
    let progress :=
      if selected.members.any (conflict i) then progress
      else searchFrom conflict rest ⟨selected.weight + weight, selected.members ++ [i]⟩ progress
    searchFrom conflict rest selected progress

/-- Search all selections of vertices with the given weights. -/
def searchAll {φ : Type} [Zero φ] [Add φ] [LT φ] [DecidableLT φ] (conflict : Nat → Nat → Bool)
    (weights : List φ) : Progress φ :=
  searchFrom conflict weights.zipIdx ⟨0, []⟩ .start

namespace Exhaustive

variable {τ α ω φ : Type} [BEq α] [Zero φ] [Add φ] [LT φ] [DecidableLT φ]

/-- A heaviest selection of the different values of a list.  A single value is returned without a
question. -/
def find (labels : Labels τ α φ) (vertices : List α) (conflict : α → α → Call τ Bool)
    (weighing : Weighing τ α ω φ) : Run τ (List α) := do
  let values := vertices.eraseDups
  if values.length < 2 then
    return values
  let weights ← Run.ask (values.mapM weighing.number)
  let table ← Run.ask (adjacencyTable conflict values)
  let progress := searchAll table.cell weights
  progress.improvements.reverse.forM fun c =>
    Run.write (.improvement (labels.weight c.weight) c.members.length)
  let selected := progress.best.members.filterMap (values[·]?)
  Run.journalled do
    let text ← Run.ask (labels.selection selected)
    Run.write (.result ("Best of " ++ Number.integerText values.length ++ " vertices (weight "
      ++ labels.weight progress.best.weight ++ ")") text)
  return selected

end Exhaustive

end Loadout
