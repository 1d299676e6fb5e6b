import Loadout.Failure
import Loadout.Number.Exact
import Loadout.Number.Word
import Loadout.Value.Basic

/-! # Quantities

The numbers among the values.  Whole numbers are unbounded; a machine word is one of sixty-four bits,
and a machine number is a real one.  As soon as a real number takes part in a calculation, the other
one is rounded to a real number too, and what comes of a machine number is one again.
-/

namespace Loadout

/-- A number in a calculation. -/
inductive Quantity
  | whole (n : Int)
  | word (n : Int)
  | real (x : Float)
  | machine (x : Float)

namespace Quantity

open Number (Exact)

/-- A whole number rounded to a real one, unless it is too large for that. -/
def roundInt (n : Int) : Except Failure Float :=
  let x := Number.nearestReal n
  if x.isInf then .error .tooLarge else .ok x

def toReal : Quantity → Except Failure Float
  | whole n | word n => roundInt n
  | real x | machine x => .ok x

def toValue : Quantity → Value
  | whole n => .integer n
  | word n => .word n
  | real x => .real x
  | machine x => .machine x

def exact : Quantity → Exact
  | whole n | word n => .ofInt n
  | real x | machine x => .ofFloat x

/-- A whole number beside a machine word. -/
def besideWord (n : Int) : Except Failure Int :=
  if Number.isWord n then .ok n else .error .tooLargeForWord

/-- Calculate with two numbers, exactly if both are whole. -/
def combine (onWhole : Int → Int → Int) (onReal : Float → Float → Float) :
    Quantity → Quantity → Except Failure Quantity
  | whole m, whole n => .ok (.whole (onWhole m n))
  | word m, word n => .ok (.word (Number.wrapWord (onWhole m n)))
  | word m, whole n => do return .word (Number.wrapWord (onWhole m (← besideWord n)))
  | whole m, word n => do return .word (Number.wrapWord (onWhole (← besideWord m) n))
  | real x, real y => .ok (.real (onReal x y))
  | real x, whole n => do return .real (onReal x (← roundInt n))
  | whole m, real y => do return .real (onReal (← roundInt m) y)
  | a, b => do return .machine (onReal (← a.toReal) (← b.toReal))

/-- The values by which two numbers are compared.  They are exact, but a machine word is rounded beside
a real number, and everything is rounded beside a machine number. -/
def beside : Quantity → Quantity → Except Failure (Exact × Exact)
  | machine x, b => do return (.ofFloat x, .ofFloat (← b.toReal))
  | a, machine y => do return (.ofFloat (← a.toReal), .ofFloat y)
  | word m, real y => .ok (.ofFloat (Number.nearestReal m), .ofFloat y)
  | real x, word n => .ok (.ofFloat x, .ofFloat (Number.nearestReal n))
  | a, b => .ok (a.exact, b.exact)

end Quantity

namespace Value

def quantity? : Value → Option Quantity
  | truth b => some (.whole b.toInt)
  | integer n => some (.whole n)
  | word n => some (.word n)
  | real x => some (.real x)
  | undefined _ => some (.real (0 / 0))
  | machine x => some (.machine x)
  | _ => none

/-- The values by which two values are compared, if both are numbers. -/
def numbers? (a b : Value) : Except Failure (Option (Number.Exact × Number.Exact)) :=
  match a.quantity?, b.quantity? with
  | some x, some y => some <$> x.beside y
  | _, _ => .ok none

end Value

end Loadout
