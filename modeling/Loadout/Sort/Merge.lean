import Loadout.Failure

/-! # Merging two runs

Two sorted runs are merged by comparing their first elements.  When one of them has won several times
in a row, merging goes over to galloping: the number of elements that win is looked for in steps of
doubling width and then by halving, and they are taken all at once.  A patience that grows and
shrinks with the success of galloping decides when that is tried.

The shorter run is the `near` one, the other the `far` one.  An element of the far run goes first only
if it is `ahead`.  If the right run is the shorter one, merging starts from the back: then both runs
are turned round, and so is the result.
-/

namespace Loadout.Sort

section Gallop

variable (holds : Nat → Except Failure Bool)

/-- Look for a place at which a condition does not hold, in steps of doubling width.  Answers the last
place that was seen to hold, and one before which the first that does not must be. -/
def widen (n last next : Nat) : Except Failure (Nat × Nat) :=
  if _h : next < n then do
    if ← holds next then widen n next (2 * next + 1) else return (last, next)
  else return (last, n)
termination_by n - next

/-- How many places hold, if `low` is known to and no place after `high` does.  The halves are uneven
in opposite ways from the front and from the back. -/
def narrow (back : Bool) (low high : Nat) : Except Failure Nat :=
  if _h : low < high then do
    let middle := if back then high - (high - low) / 2 else low + 1 + (high - low) / 2
    if ← holds middle then narrow back middle high else narrow back low (middle - 1)
  else return low + 1
termination_by high - low
decreasing_by
  all_goals
    split <;> omega

/-- How many of `n` places hold, if those that do are the first ones. -/
def gallop (back : Bool) (n : Nat) : Except Failure Nat := do
  if ← holds 0 then
    let (low, next) ← widen holds n 0 1
    narrow holds back low (next - 1)
  else return 0

end Gallop

variable {α : Type}

/-- How many elements at the beginning of a list satisfy a condition. -/
def leading (back : Bool) (holds : α → Except Failure Bool) (xs : List α) : Except Failure Nat :=
  gallop (fun i => match xs[i]? with
    | some x => holds x
    | none => .ok false) back xs.length

/-- How two runs are being merged: element by element, after so many wins in a row, or galloping,
perhaps for the first time in a row. -/
inductive Pace
  | stepping (nearWins farWins : Nat)
  | galloping (first : Bool)

/-- So many elements at once make galloping worth while. -/
def leastGallop : Nat := 7

/-- How to go on after a round of galloping that took so many elements of each run.  Patience grows
when galloping is given up, but not when the merge has `ended`. -/
def Pace.afterRound (ended : Bool) (near far patience : Nat) : Pace × Nat :=
  if ended ∨ leastGallop ≤ near ∨ leastGallop ≤ far then (galloping false, patience)
  else (stepping 0 0, patience + 1)

section Merge

variable (ahead : α → α → Except Failure Bool) (back : Bool)

/-- Go on with a merge, given what is merged already, latest first.  A near run of one element goes to
the end.  Answers the merged run and the patience that is left. -/
def mergeFrom (pace : Pace) (patience : Nat) (near far merged : List α) :
    Except Failure (List α × Nat) :=
  match near, far with
  | x :: x' :: xs, y :: ys =>
    match pace with
    | .stepping nearWins farWins => do
      if ← ahead y x then
        let pace := if patience ≤ farWins + 1 then .galloping true else .stepping 0 (farWins + 1)
        mergeFrom pace patience (x :: x' :: xs) ys (y :: merged)
      else
        let pace := if patience ≤ nearWins + 1 then .galloping true else .stepping (nearWins + 1) 0
        mergeFrom pace patience (x' :: xs) (y :: ys) (x :: merged)
    | .galloping first =>
      let patience := if first then patience else max 1 (patience - 1)
      if back then do
        let m ← leading back (fun y => ahead y x) (y :: ys)
        let merged := ((y :: ys).take m).reverse ++ merged
        match _hy : (y :: ys).drop m with
        | [] => return (merged.reverse ++ x :: x' :: xs, patience)
        | y :: ys =>
          let merged := x :: merged
          let n ← if xs.isEmpty then pure 0
            else leading back (fun x => (!·) <$> ahead y x) (x' :: xs)
          let merged := ((x' :: xs).take n).reverse ++ merged
          match _hx : (x' :: xs).drop n with
          | x :: x' :: xs =>
            let (pace, patience) := Pace.afterRound ys.isEmpty n m patience
            mergeFrom pace patience (x :: x' :: xs) ys (y :: merged)
          | near => return (merged.reverse ++ (y :: ys) ++ near, patience)
      else do
        let n ← leading back (fun x => (!·) <$> ahead y x) (x :: x' :: xs)
        let merged := ((x :: x' :: xs).take n).reverse ++ merged
        match _hx : (x :: x' :: xs).drop n with
        | x :: x' :: xs =>
          let merged := y :: merged
          let m ← leading back (fun y => ahead y x) ys
          let merged := (ys.take m).reverse ++ merged
          match _hy : ys.drop m with
          | [] => return (merged.reverse ++ x :: x' :: xs, patience)
          | y :: ys =>
            let (pace, patience) := Pace.afterRound xs.isEmpty n m patience
            mergeFrom pace patience (x' :: xs) (y :: ys) (x :: merged)
        | near => return (merged.reverse ++ (y :: ys) ++ near, patience)
  | near, far => return (merged.reverse ++ far ++ near, patience)
termination_by near.length + far.length
decreasing_by
  · simp
  · simp
  all_goals
    have hx := congrArg List.length _hx
    have hy := congrArg List.length _hy
    simp only [List.length_drop, List.length_cons] at hx hy ⊢
    omega

/-- Merge two runs.  The first element of the far run is known to be ahead. -/
def merge (patience : Nat) (near far : List α) : Except Failure (List α × Nat) :=
  match far with
  | [] => return (near, patience)
  | y :: ys => mergeFrom ahead back (.stepping 0 0) patience near ys [y]

end Merge

variable (below : α → α → Except Failure Bool)

/-- Merge a run and the one to the right of it.  The elements at either end that are in their places
already are left out. -/
def mergeRuns (patience : Nat) (left right : List α) : Except Failure (List α × Nat) := do
  match right with
  | [] => return (left, patience)
  | first :: _ =>
    let done ← leading false (fun x => (!·) <$> below first x) left
    match (left.drop done).getLast? with
    | none => return (left ++ right, patience)
    | some last =>
      let rest ← leading true (fun x => (!·) <$> below x last) right.reverse
      let near := left.drop done
      let far := right.take (right.length - rest)
      let (merged, patience) ←
        if near.length ≤ far.length then merge below false patience near far
        else do
          let (merged, patience) ←
            merge (fun y x => below x y) true patience far.reverse near.reverse
          pure (merged.reverse, patience)
      return (left.take done ++ merged ++ right.drop (right.length - rest), patience)

end Loadout.Sort
