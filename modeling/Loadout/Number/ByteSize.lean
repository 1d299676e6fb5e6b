import Loadout.Number.Numeral
import Loadout.Number.Rounding

/-! # Sizes of memory

A number of bytes is told in the largest binary unit of which there is at least one after rounding,
with three digits, or with four if there are a thousand units or more.
-/

namespace Loadout.Number

/-- The binary units, each 1024 times the one before it. -/
def byteUnits : List String :=
  ["bytes", "KiB", "MiB", "GiB", "TiB", "PiB", "EiB"]

/-- Which unit a number of bytes is told in. -/
def byteUnit (bytes : Nat) : Nat :=
  let unit := max bytes.log2 1 / 10
  if roundDiv bytes (Nat.pow 1024 unit) = 1024 then unit + 1 else unit

/-- A number of hundredths with three digits, and always with a point. -/
def threeDigits (num den : Nat) : String :=
  let places := (([2, 1].find? fun p => roundDiv (num * Nat.pow 10 p) den < 1000)).getD 0
  let digits := Nat.toDigits 10 (roundDiv (num * Nat.pow 10 places) den)
  let whole := digits.length - places
  String.ofList (digits.take whole ++ '.' :: digits.drop whole)

/-- A number of bytes in words. -/
def byteSize (bytes : Nat) : String :=
  let unit := byteUnit bytes
  let amount :=
    if unit = 0 then integerText bytes else threeDigits bytes (Nat.pow 1024 unit)
  amount ++ " " ++ (byteUnits[unit]?.getD "EiB")

end Loadout.Number
