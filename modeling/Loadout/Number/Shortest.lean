import Loadout.Number.Binary64

/-! # The fewest digits that read back

A binary64 number stands for all reals that round to it, an interval around its value.  It is
written with the fewest decimal digits that lie in that interval, and of the decimals with that many
digits by the nearest one.  Scientific notation is used below 10⁻⁴ and from 10¹⁶ on, and a whole
number written positionally keeps one zero after the point.
-/

namespace Loadout.Number

/-- The reals that round to `mantissa · 2 ^ exponent`, as three numerators over one denominator: the
lower end, the value and the upper end; and whether the ends belong to them. -/
structure RoundingInterval where
  low : Nat
  value : Nat
  high : Nat
  den : Nat
  closed : Bool

namespace RoundingInterval

/-- The gap to the neighbour below is half as wide under a power of two. -/
def of (mantissa : Nat) (exponent : Int) : RoundingInterval :=
  let narrow := mantissa = Nat.pow 2 52 ∧ -1074 < exponent
  let (unit, den) := Binary64.fraction 1 (exponent - 2)
  { low := (4 * mantissa - if narrow then 1 else 2) * unit
    value := 4 * mantissa * unit
    high := (4 * mantissa + 2) * unit
    den := den
    closed := mantissa % 2 == 0 }

/-- Whether `digits · 10 ^ scale` lies in the interval. -/
def contains (i : RoundingInterval) (digits : Nat) (scale : Int) : Bool :=
  let (num, den) :=
    if 0 ≤ scale then (digits * Nat.pow 10 scale.toNat, 1) else (digits, Nat.pow 10 (-scale).toNat)
  let x := num * i.den
  if i.closed then i.low * den ≤ x && x ≤ i.high * den else i.low * den < x && x < i.high * den

/-- The place of the leading digit: the least `k` for which the value is below `10 ^ k`. -/
def magnitude (i : RoundingInterval) : Int :=
  let below (k : Int) : Bool :=
    if 0 ≤ k then i.value < Nat.pow 10 k.toNat * i.den else i.value * Nat.pow 10 (-k).toNat < i.den
  let guess : Int := ((i.value.log2 : Int) - i.den.log2) * 30103 / 100000
  (((List.range 6).map fun (j : Nat) => guess - 2 + j).find? below).getD (guess + 4)

/-- The nearest decimal in the interval on the grid of `n` digits, if there is one. -/
def onGrid? (i : RoundingInterval) (k : Int) (n : Nat) : Option (Nat × Int) :=
  let scale := k - n
  let (num, den) :=
    if 0 ≤ scale then (i.value, i.den * Nat.pow 10 scale.toNat)
    else (i.value * Nat.pow 10 (-scale).toNat, i.den)
  let below := num / den
  let rest := 2 * (num % den)
  let nearer := if rest < den || rest == den && below % 2 == 0 then below else below + 1
  let other := if nearer = below then below + 1 else below
  if i.contains nearer scale then some (nearer, scale)
  else if i.contains other scale then some (other, scale)
  else none

/-- The digits and the scale of the shortest decimal in the interval. -/
def shortest (i : RoundingInterval) : Nat × Int :=
  let k := i.magnitude
  ((List.range 17).findSome? fun n => i.onGrid? k (n + 1)).getD (i.value, 0)

end RoundingInterval

/-- `digits · 10 ^ scale` without the zeros at its end, given a bound on their number. -/
def dropZeros : Nat → Nat × Int → Nat × Int
  | 0, x => x
  | fuel + 1, (digits, scale) =>
    if digits % 10 = 0 && digits ≠ 0 then dropZeros fuel (digits / 10, scale + 1)
    else (digits, scale)

/-- `digits · 10 ^ scale` as a text. -/
def layout (digits : List Char) (scale : Int) : List Char :=
  let exponent := scale + digits.length - 1
  if -4 ≤ exponent && exponent < 16 then
    if 0 ≤ scale then digits ++ List.replicate scale.toNat '0' ++ ['.', '0']
    else if 0 ≤ exponent then
      digits.take (exponent + 1).toNat ++ '.' :: digits.drop (exponent + 1).toNat
    else '0' :: '.' :: List.replicate (-exponent - 1).toNat '0' ++ digits
  else
    let fraction := match digits.drop 1 with
      | [] => []
      | ds => '.' :: ds
    let power := Nat.toDigits 10 exponent.natAbs
    digits.take 1 ++ fraction ++ ['e', if exponent < 0 then '-' else '+']
      ++ List.replicate (2 - power.length) '0' ++ power

/-- The text of a binary64 number. -/
def Binary64.text : Binary64 → String
  | .nan => "nan"
  | .infinite negative => if negative then "-inf" else "inf"
  | .finite negative mantissa exponent =>
    let unsigned :=
      if mantissa = 0 then ['0', '.', '0']
      else
        let (digits, scale) := dropZeros 17 (RoundingInterval.of mantissa exponent).shortest
        layout (Nat.toDigits 10 digits) scale
    String.ofList (if negative then '-' :: unsigned else unsigned)

/-- The text of a number: the fewest digits that read back. -/
def realText (x : Float) : String :=
  (Binary64.ofFloat x).text

end Loadout.Number
