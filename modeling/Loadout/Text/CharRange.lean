/-! # Ranges of characters

Classes of characters are given by ascending lists of inclusive ranges of code points.
-/

namespace Loadout.Text

/-- The code points from `first` to `last`, both included. -/
structure CharRange where
  first : Nat
  last : Nat

/-- Whether a character lies in one of the ranges. -/
def inAny (ranges : List CharRange) (c : Char) : Bool :=
  ranges.any fun r => r.first ≤ c.toNat && c.toNat ≤ r.last

end Loadout.Text
