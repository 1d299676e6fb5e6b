/-! # Reducing the candidates

Most candidates need not be looked at by the solver.  A candidate that weighs nothing or less is
never worth wearing; of several that occupy the same slots only the heaviest is; and one that
occupies several slots is dominated if the best single-slot candidates for these slots weigh at
least as much together.
-/

namespace Loadout.Gear

/-- An item with its weight and the different slots that it occupies. -/
structure Candidate (α σ φ : Type) where
  item : α
  weight : φ
  slots : List σ

variable {α σ φ : Type} [BEq σ]

/-- Whether two lists of different slots are the same set. -/
def sameSlots (xs ys : List σ) : Bool :=
  xs.length == ys.length && xs.all ys.contains

/-- Whether two lists of slots have a slot in common. -/
def shareSlot (xs ys : List σ) : Bool :=
  xs.any ys.contains

/-- The candidate in a list that occupies exactly the given slots. -/
def winner? (best : List (Candidate α σ φ)) (slots : List σ) : Option (Candidate α σ φ) :=
  best.find? fun c => sameSlots slots c.slots

/-- Put a candidate in the place of the one that occupies the same slots. -/
def replaceWinner (best : List (Candidate α σ φ)) (c : Candidate α σ φ) : List (Candidate α σ φ) :=
  best.map fun b => if sameSlots c.slots b.slots then c else b

variable [Zero φ] [LE φ] [DecidableLE φ] [LT φ] [DecidableLT φ]

/-- Consider one more candidate for the winners so far.  An item that is `absent` cannot be told
from an empty place: it gives way to any later one. -/
def consider (absent : α → Bool) (best : List (Candidate α σ φ)) (c : Candidate α σ φ) :
    List (Candidate α σ φ) :=
  if c.weight ≤ 0 then best
  else
    match winner? best c.slots with
    | none => best ++ [c]
    | some previous =>
      if absent previous.item || previous.weight < c.weight then replaceWinner best c else best

/-- The winner of each set of slots, in the order in which the sets first occurred. -/
def bestPerSlotSet (absent : α → Bool) (candidates : List (Candidate α σ φ)) :
    List (Candidate α σ φ) :=
  candidates.foldl (consider absent) []

/-- The weight of the winners for single slots together. -/
def separateWeight [Add φ] (absent : α → Bool) (best : List (Candidate α σ φ)) (slots : List σ) :
    φ :=
  slots.foldl (fun total slot =>
    match winner? best [slot] with
    | some single => if absent single.item then total else total + single.weight
    | none => total) 0

/-- Whether separate items for the slots of a candidate are at least as heavy. -/
def isDominated [Add φ] (absent : α → Bool) (best : List (Candidate α σ φ))
    (c : Candidate α σ φ) : Bool :=
  2 ≤ c.slots.length && c.weight ≤ separateWeight absent best c.slots

/-- The candidates that are left after all reductions. -/
def considered [Add φ] (absent : α → Bool) (best : List (Candidate α σ φ)) :
    List (Candidate α σ φ) :=
  best.filter fun c => !isDominated absent best c

end Loadout.Gear
