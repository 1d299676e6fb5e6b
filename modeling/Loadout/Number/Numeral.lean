import Loadout.Text.Blank
import Loadout.Text.DecimalDigit

/-! # Reading numerals

Whole and real numbers read from a text.  Digits of any script count, single underscores may stand
between digits, and blanks at the ends are skipped; a whole number is a sign and digits, a real one
has a point or an exponent besides, or is one of the words for infinity and for no number at all.
-/

namespace Loadout.Number

open Loadout.Text

/-- The blanks around a numeral; the separators of ASCII are not among them. -/
def isNumeralBlank (c : Char) : Bool :=
  isBlank c && !(0x1c ≤ c.toNat && c.toNat ≤ 0x1f)

def trimNumeral (cs : List Char) : List Char :=
  ((cs.dropWhile isNumeralBlank).reverse.dropWhile isNumeralBlank).reverse

/-- The sign in front of a numeral. -/
def splitSign : List Char → Bool × List Char
  | '-' :: cs => (true, cs)
  | '+' :: cs => (false, cs)
  | cs => (false, cs)

/-- Digits with single underscores between them: their values, and what follows. -/
def digitGroup : List Char → List Nat × List Char
  | [] => ([], [])
  | c :: cs =>
    match decimalDigit? c with
    | none => ([], c :: cs)
    | some d =>
      match cs with
      | '_' :: c' :: cs' =>
        if (decimalDigit? c').isSome then
          let (ds, rest) := digitGroup (c' :: cs')
          (d :: ds, rest)
        else ([d], '_' :: c' :: cs')
      | cs =>
        let (ds, rest) := digitGroup cs
        (d :: ds, rest)

/-- The number that digits stand for, most significant first. -/
def ofDigits (ds : List Nat) : Nat :=
  ds.foldl (fun n d => 10 * n + d) 0

/-- A whole number. -/
def integer? (s : String) : Option Int :=
  let (negative, cs) := splitSign (trimNumeral s.toList)
  match digitGroup cs with
  | (d :: ds, []) => some (if negative then -(ofDigits (d :: ds)) else ofDigits (d :: ds))
  | _ => none

/-- How many digits a whole number is read from at most. -/
def digitLimit : Nat := 4300

/-- How many digits a text begins with, after its sign.  They do not count if an underscore follows
that stands between no digits. -/
def digitCount (s : String) : Nat :=
  match digitGroup (splitSign (trimNumeral s.toList)).2 with
  | (_, '_' :: _) => 0
  | (ds, _) => ds.length

/-- `digits · 10 ^ scale`, rounded to the nearest binary64 number.  Scales far outside the range of
those numbers are answered without the power. -/
def realOf (digits : Nat) (scale : Int) : Float :=
  let size := (Nat.toDigits 10 digits).length
  if digits = 0 then 0
  else if 400 < scale + size then 1 / 0
  else if scale + size < -400 then 0
  else if 0 ≤ scale then Float.ofScientific digits false scale.toNat
  else Float.ofScientific digits true (-scale).toNat

/-- The exponent at the end of a real numeral. -/
def exponent? : List Char → Option Int
  | [] => some 0
  | c :: cs =>
    if c = 'e' || c = 'E' then
      let (negative, cs) := splitSign cs
      match digitGroup cs with
      | (d :: ds, []) => some (if negative then -(ofDigits (d :: ds)) else ofDigits (d :: ds))
      | _ => none
    else none

/-- A real numeral without its sign. -/
def unsignedReal? (cs : List Char) : Option Float :=
  let word := String.ofList (cs.map Char.toLower)
  if word = "inf" || word = "infinity" then some (1 / 0)
  else if word = "nan" then some (0 / 0)
  else
    let (whole, rest) := digitGroup cs
    let (fraction, rest) := match rest with
      | '.' :: rest => digitGroup rest
      | rest => ([], rest)
    if whole.isEmpty && fraction.isEmpty then none
    else (exponent? rest).map fun e => realOf (ofDigits (whole ++ fraction)) (e - fraction.length)

/-- A real number. -/
def real? (s : String) : Option Float :=
  let (negative, cs) := splitSign (trimNumeral s.toList)
  (unsignedReal? cs).map fun x => if negative then -x else x

/-- The text of a whole number. -/
def integerText (n : Int) : String :=
  let digits := Nat.toDigits 10 n.natAbs
  String.ofList (if n < 0 then '-' :: digits else digits)

end Loadout.Number
