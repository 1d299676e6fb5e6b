import Loadout.Number.Binary64

/-! # Exact values of numbers

Whole numbers and binary64 numbers are compared by the exact values they stand for, so that a
comparison never rounds.  The undefined number is equal to nothing and in no order with anything.
-/

namespace Loadout.Number

inductive Exact
  | undefined
  | infinite (negative : Bool)
  | finite (value : Rat)
deriving DecidableEq

namespace Exact

def ofInt (n : Int) : Exact :=
  .finite n

def ofBinary64 : Binary64 → Exact
  | .nan => .undefined
  | .infinite negative => .infinite negative
  | .finite negative mantissa exponent =>
    let (num, den) := Binary64.fraction mantissa exponent
    .finite (mkRat (if negative then -(num : Int) else num) den)

def ofFloat (x : Float) : Exact :=
  ofBinary64 (.ofFloat x)

/-- Two numbers agree when both are defined and have one value. -/
def agree (a b : Exact) : Bool :=
  a ≠ .undefined && a = b

def lt : Exact → Exact → Bool
  | .finite a, .finite b => a < b
  | .finite _, .infinite negative => !negative
  | .infinite negative, .finite _ => negative
  | .infinite negative, .infinite negative' => negative && !negative'
  | _, _ => false

def le (a b : Exact) : Bool :=
  a.agree b || a.lt b

theorem agree_comm (a b : Exact) : a.agree b = b.agree a := by
  simp only [agree]
  grind

theorem agree_trans {a b c : Exact} (h : a.agree b = true) (h' : b.agree c = true) :
    a.agree c = true := by
  simp only [agree] at *
  grind

theorem agree_self_iff {a : Exact} : a.agree a = true ↔ a ≠ .undefined := by
  simp [agree]

end Exact

/-- The real number that is nearest to a whole one; infinite if it is too large. -/
def nearestReal (n : Int) : Float :=
  let x := Float.ofScientific n.natAbs false 0
  if n < 0 then -x else x

end Loadout.Number
