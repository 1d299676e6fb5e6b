import Loadout.Number.Rounding
import Loadout.Number.Binary64

/-! # A fixed number of places

A number is written with four places after the point, rounded from its exact value, a half to the
even neighbour; then the zeros at the end are dropped, and the point too if nothing follows it.
-/

namespace Loadout.Number

/-- The number of places that are kept. -/
def keptPlaces : Nat := 4

/-- `num / den` in units of the last place. -/
def lastPlaceUnits (num den : Nat) : Nat :=
  roundDiv (num * Nat.pow 10 keptPlaces) den

/-- A number of units of the last place, written with all its places. -/
def placesText (units : Nat) : List Char :=
  let fraction := Nat.toDigits 10 (units % Nat.pow 10 keptPlaces)
  Nat.toDigits 10 (units / Nat.pow 10 keptPlaces)
    ++ '.' :: List.replicate (keptPlaces - fraction.length) '0' ++ fraction

/-- A text without its last characters, as long as they are `c`. -/
def dropTrailing (c : Char) (cs : List Char) : List Char :=
  (cs.reverse.dropWhile (· == c)).reverse

/-- Without zeros at the end, and then without a point at the end. -/
def stripPlaces (cs : List Char) : List Char :=
  dropTrailing '.' (dropTrailing '0' cs)

/-- The text of a weight. -/
def Binary64.weightText : Binary64 → String
  | .nan => "nan"
  | .infinite negative => if negative then "-inf" else "inf"
  | .finite negative mantissa exponent =>
    let (num, den) := fraction mantissa exponent
    let unsigned := stripPlaces (placesText (lastPlaceUnits num den))
    String.ofList (if negative then '-' :: unsigned else unsigned)

/-- The text of a weight. -/
def weightText (x : Float) : String :=
  (Binary64.ofFloat x).weightText

end Loadout.Number
