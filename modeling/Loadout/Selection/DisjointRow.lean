import Loadout.Graph.Adjacency
import Loadout.Selection.Basic

/-! # The heaviest row of disjoint candidates

A quick selection from a family of collections.  Every candidate owns a row: itself and all other
candidates that share no element with it.  The heaviest row is selected, the first one if several
are.  Its candidates are all disjoint from the owner, but perhaps not from each other.

The weight of a row is a sum over all candidates, each times one or zero.  So an infinite weight
makes an undefined sum of every row that it is not in, and the first undefined sum counts as the
heaviest.
-/

namespace Loadout.DisjointRow

variable {τ α ω φ : Type}

/-- The candidates that are disjoint from the one at `i`: all others whose cell is not set. -/
def partners (intersections : Table) (size i : Nat) : List Nat :=
  (List.range size).filter fun j => i != j && !intersections.cell i j

/-- The weight of the row of the candidate at `i`. -/
def rowWeight [Zero φ] [One φ] [Add φ] [Mul φ] (intersections : Table) (weights : List φ)
    (i : Nat) (own : φ) : φ :=
  own + weights.zipIdx.foldl (fun total (weight, j) =>
    total + (if i != j && !intersections.cell i j then 1 else 0) * weight) 0

/-- The heavier of two rows, the first if they weigh the same.  An undefined weight is not at most
itself, and nothing replaces it. -/
def heavier [LE φ] [DecidableLE φ] (best next : φ × Nat) : φ × Nat :=
  if best.1 ≤ best.1 ∧ ¬ next.1 ≤ best.1 then next else best

/-- The index of the heaviest row. -/
def heaviest [LE φ] [DecidableLE φ] : List (φ × Nat) → Nat
  | [] => 0
  | row :: rows => (rows.foldl heavier row).2

/-- The heads of a table of rows. -/
def tableHeads : List String :=
  ["candidate", "weight", "row weight"]

/-- The table of some values, their weights and those of their rows. -/
def tableRows (labels : Labels τ α φ) (values : List α) (weights rowWeights : List φ) :
    Call τ (List (List String)) := do
  let names ← values.mapM labels.vertex
  return (names.zip (weights.zip rowWeights)).map fun (name, own, row) =>
    [name, labels.weight own, labels.weight row]

variable [BEq α] [Zero φ] [One φ] [Add φ] [Mul φ] [LE φ] [DecidableLE φ]

/-- The heaviest row of the different values of a list, its owner first.  A single value is
returned without a question. -/
def find (labels : Labels τ α φ) (tabulate : Tabulator) (candidates : List α)
    (intersect : α → α → Call τ Bool) (weighing : Weighing τ α ω φ) : Run τ (List α) := do
  let values := candidates.eraseDups
  if values.length < 2 then
    return values
  let weights ← Run.ask (values.mapM weighing.number)
  let intersections ← Run.ask (adjacencyTable intersect values)
  let rowWeights := weights.zipIdx.map fun (own, i) => rowWeight intersections weights i own
  let owner := heaviest rowWeights.zipIdx
  Run.write (.openSection "Maximum weighted disjoint set")
  Run.journalled do
    let rows ← Run.ask (tableRows labels values weights rowWeights)
    tabulate.write tableHeads rows
  let selected := (owner :: partners intersections values.length owner).filterMap (values[·]?)
  match values[owner]? with
  | some v =>
    let name ← Run.ask (labels.vertex v)
    Run.write (.result "Selected row" name)
  | none => pure ()
  Run.write .closeSection
  return selected

end Loadout.DisjointRow
