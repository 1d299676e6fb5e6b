import Loadout.Sort.Insertion
import Loadout.Sort.Merge

/-! # Sorting by runs

A list is cut into runs from left to right, and neighbouring runs are merged.  Which runs are merged
first is decided by their powers: the power of two neighbours is the place of the first binary digit
in which their midpoints differ, as parts of the whole list.  Equal elements keep their order.

A list of fewer than 64 elements is a single run, so it is sorted by insertion alone.
-/

namespace Loadout.Sort

/-- The least length of a run: the length of the list, halved until it is less than 64 and rounded
upwards, so that there are about as many runs as a power of two. -/
def leastRun (n : Nat) : Nat :=
  let parts := Nat.pow 2 (n.log2 - 5)
  (n + parts - 1) / parts

/-- The place of the first binary digit in which two parts of `2 * n` differ, of which the second is
larger by two at least. -/
def power (n a b : Nat) : Nat :=
  ((List.range (n.log2 + 2)).find? fun k =>
    a * Nat.pow 2 k / (2 * n) != b * Nat.pow 2 k / (2 * n)).getD (n.log2 + 2)

/-- A sorted stretch of a list that begins at a place, and its power beside the stretch after it. -/
structure Run (α : Type) where
  start : Nat
  items : List α
  power : Nat

variable {α : Type} (below : α → α → Except Failure Bool)

/-- The power of a run beside a new one that comes next, in a list of a length. -/
def Run.powerBeside (run : Run α) (next length : Nat) : Nat :=
  let middle := 2 * run.start + run.items.length
  Loadout.Sort.power length middle (middle + run.items.length + next)

/-- Merge the uppermost two of the waiting runs, as long as their power is above a new one. -/
def settle (power : Nat) : List (Run α) → Nat → Except Failure (List (Run α) × Nat)
  | top :: next :: rest, patience =>
    if power < next.power then do
      let (items, patience) ← mergeRuns below patience next.items top.items
      settle power ({ next with items } :: rest) patience
    else return (top :: next :: rest, patience)
  | waiting, patience => return (waiting, patience)
termination_by waiting => waiting.length

/-- Put a new run on top of the waiting ones, in a list of a length. -/
def push (length : Nat) (items : List α) (waiting : List (Run α)) (patience : Nat) :
    Except Failure (List (Run α) × Nat) := do
  match waiting with
  | [] => return ([{ start := 0, items, power := 0 }], patience)
  | top :: _ =>
    let power := top.powerBeside items.length length
    let start := top.start + top.items.length
    match ← settle below power waiting patience with
    | ([], patience) => return ([{ start, items, power := 0 }], patience)
    | (top :: rest, patience) =>
      return ({ start, items, power := 0 } :: { top with power } :: rest, patience)

/-- Merge all waiting runs.  The second one is merged with the shorter of its neighbours. -/
def collapse : List (Run α) → Nat → Except Failure (List α)
  | [], _ => return []
  | [run], _ => return run.items
  | [top, next], patience => do
    let (items, _) ← mergeRuns below patience next.items top.items
    return items
  | top :: next :: third :: rest, patience =>
    if third.items.length < top.items.length then do
      let (items, patience) ← mergeRuns below patience third.items next.items
      collapse (top :: { third with items } :: rest) patience
    else do
      let (items, patience) ← mergeRuns below patience next.items top.items
      collapse ({ next with items } :: third :: rest) patience
termination_by waiting => waiting.length

/-- Sort what is left of a list of a length, when the runs before it are waiting. -/
def sortFrom (length : Nat) :
    List α → List (Run α) → Nat → Except Failure (List α)
  | [], waiting, patience => collapse below waiting patience
  | x :: xs, waiting, patience => do
    let run ← takeRun below (leastRun length) (x :: xs)
    let (waiting, patience) ← push below length run waiting patience
    sortFrom length (xs.drop (run.length - 1)) waiting patience
termination_by rest => rest.length
decreasing_by
  simp only [List.length_drop, List.length_cons]
  omega

/-- Sort a list; equal elements keep their order. -/
def sort (xs : List α) : Except Failure (List α) :=
  sortFrom below xs.length xs [] leastGallop

end Loadout.Sort
