import Loadout.Failure

/-! # Runs and insertion

Sorting starts from what is in order already.  A run is a beginning of a list in which no element is
below the one before it, or in which every element is; in the second case it is turned round.  A run
that is too short is made longer: the elements that follow are inserted one by one.

The question whether one element is below another may fail, and is then asked no more.
-/

namespace Loadout.Sort

variable {α : Type} (below : α → α → Except Failure Bool)

/-- How many elements of a list go on with a run from the element `last`. -/
def continuation (descending : Bool) (last : α) : List α → Except Failure Nat
  | [] => .ok 0
  | x :: xs => do
    if (← below x last) = descending then return (← continuation descending x xs) + 1 else return 0

/-- The length of the run that a list begins with, and whether it descends. -/
def firstRun : List α → Except Failure (Nat × Bool)
  | [] => .ok (0, false)
  | [_] => .ok (1, false)
  | x :: y :: ys => do
    let descending ← below y x
    return ((← continuation below descending y ys) + 2, descending)

/-- Insert an element into a sorted list, after all that it is not below.  Its place is found by
halving the list. -/
def insertByHalving (x : α) (xs : List α) : Except Failure (List α) :=
  match _h : xs.drop (xs.length / 2) with
  | [] => .ok [x]
  | middle :: high => do
    let low := xs.take (xs.length / 2)
    if ← below x middle then
      return (← insertByHalving x low) ++ middle :: high
    else
      return low ++ middle :: (← insertByHalving x high)
termination_by xs.length
decreasing_by
  all_goals
    have := congrArg List.length _h
    rw [List.length_drop, List.length_cons] at this
  · rw [List.length_take]
    omega
  · omega

/-- The sorted run that is taken from the beginning of a list: the first run, filled up to a least
length as far as there are elements. -/
def takeRun (least : Nat) (xs : List α) : Except Failure (List α) := do
  let (n, descending) ← firstRun below xs
  let run := if descending then (xs.take n).reverse else xs.take n
  ((xs.drop n).take (least - n)).foldlM (fun sorted x => insertByHalving below x sorted) run

end Loadout.Sort
