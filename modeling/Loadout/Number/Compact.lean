import Loadout.Number.Places
import Loadout.Number.Shortest

/-! # The text of a number in an array

A number in an array is written with the fewest digits that read back, but with no more than eight places
after the point.  The point is kept if nothing follows it.  Scientific notation is used for numbers below
10⁻⁴ and from 10⁸ on.
-/

namespace Loadout.Number

/-- The number of places that a number in an array has at most. -/
def arrayPlaces : Nat := 8

/-- The decimal that is written for a mantissa and an exponent, with nothing below `10 ^ least`. -/
def decimalDownTo (mantissa : Nat) (exponent : Int) (least : Int) : Nat × Int :=
  let (digits, scale) := dropZeros 17 (RoundingInterval.of mantissa exponent).shortest
  if least ≤ scale then (digits, scale)
  else
    let (num, den) := Binary64.fraction mantissa exponent
    let num := num * Nat.pow 10 (-least).toNat
    let den := den * Nat.pow 10 least.toNat
    dropZeros 17 (roundDiv num den, least)

/-- The power of ten in a decimal's first digit. -/
def leadingPower (decimal : Nat × Int) : Int :=
  decimal.2 + (Nat.toDigits 10 decimal.1).length - 1

/-- A number in units of the last of eight places, with the point kept. -/
def positionalText (units : Nat) : List Char :=
  let fraction := Nat.toDigits 10 (units % Nat.pow 10 arrayPlaces)
  Nat.toDigits 10 (units / Nat.pow 10 arrayPlaces)
    ++ '.' :: dropTrailing '0' (List.replicate (arrayPlaces - fraction.length) '0' ++ fraction)

/-- A decimal in scientific notation, with the point kept. -/
def scientificText (decimal : Nat × Int) : List Char :=
  let digits := Nat.toDigits 10 decimal.1
  let power := leadingPower decimal
  let powerDigits := Nat.toDigits 10 power.natAbs
  digits.take 1 ++ '.' :: digits.drop 1 ++ ['e', if power < 0 then '-' else '+']
    ++ List.replicate (2 - powerDigits.length) '0' ++ powerDigits

/-- The text of a positive number. -/
def compactText (mantissa : Nat) (exponent : Int) (scientific : Bool) : List Char :=
  if scientific then
    let shortest := (RoundingInterval.of mantissa exponent).shortest
    scientificText (decimalDownTo mantissa exponent (leadingPower shortest - arrayPlaces))
  else
    let (digits, scale) := decimalDownTo mantissa exponent (-arrayPlaces)
    positionalText (digits * Nat.pow 10 (scale + arrayPlaces).toNat)

/-- The text of a number in an array. -/
def cellText (x : Float) : String :=
  match Binary64.ofFloat x with
  | .nan => "nan"
  | .infinite negative => if negative then "-inf" else "inf"
  | .finite negative mantissa exponent =>
    let scientific := 1e8 ≤ x.abs || x.abs < 1e-4
    let unsigned := if mantissa = 0 then ['0', '.'] else compactText mantissa exponent scientific
    String.ofList (if negative then '-' :: unsigned else unsigned)

end Loadout.Number
