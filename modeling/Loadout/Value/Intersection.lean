import Loadout.Value.Caller

/-! # Collections that share an element

Two collections intersect when an element of one is the same as an element of the other.  A set on
either side is asked directly; without one, a set is made of the left side first.
-/

namespace Loadout

namespace Value

/-- Whether a value is an element of a set; a value that can be changed is not even asked for. -/
def isIn (elements : List Value) (v : Value) : Except Failure Bool := do
  v.beElement
  return elements.contains v

/-- Whether two collections share an element. -/
def intersects (left right : Value) : Call Caller Bool :=
  match left.setElements?, right.setElements? with
  | some xs, _ => right.anyElement (isIn xs)
  | none, some ys => left.anyElement (isIn ys)
  | none, none => do
    let xs ← left.toSet
    right.anyElement (isIn xs)

end Value

end Loadout
