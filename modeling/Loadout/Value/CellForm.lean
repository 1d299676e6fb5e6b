import Loadout.Number.Numeral

/-! # Forms of cells

Machine numbers live in cells of memory, and the cells of one array are all of one form.  A form has a
name that tells its width, and a class that does not.
-/

namespace Loadout

inductive CellForm
  | truth
  | whole
  | large
  | real
  | text (width : Nat)
  | bytes (width : Nat)
  | any
deriving DecidableEq, Repr

namespace CellForm

open Number (integerText)

def name : CellForm → String
  | truth => "dtype('bool')"
  | whole => "dtype('int64')"
  | large => "dtype('uint64')"
  | real => "dtype('float64')"
  | text width => "dtype('<U" ++ integerText width ++ "')"
  | bytes width => "dtype('S" ++ integerText width ++ "')"
  | any => "dtype('O')"

def className : CellForm → String
  | truth => "<class 'numpy.dtypes.BoolDType'>"
  | whole => "<class 'numpy.dtypes.Int64DType'>"
  | large => "<class 'numpy.dtypes.UInt64DType'>"
  | real => "<class 'numpy.dtypes.Float64DType'>"
  | text _ => "<class 'numpy.dtypes.StrDType'>"
  | bytes _ => "<class 'numpy.dtypes.BytesDType'>"
  | any => "<class 'numpy.dtypes.ObjectDType'>"

/-- Whether the cells hold texts or strings of bytes. -/
def isString : CellForm → Bool
  | text _ | bytes _ => true
  | _ => false

/-- The width of the texts that cells of a form become beside texts. -/
def textWidth : CellForm → Nat
  | truth => 5
  | whole => 21
  | large => 20
  | real => 32
  | text width | bytes width => width
  | any => 0

/-- The form in which cells of two forms find room together. -/
def join : CellForm → CellForm → CellForm
  | any, _ | _, any => any
  | text m, g => text (max m g.textWidth)
  | f, text n => text (max f.textWidth n)
  | bytes m, g => bytes (max m g.textWidth)
  | f, bytes n => bytes (max f.textWidth n)
  | real, _ | _, real | large, whole | whole, large => real
  | large, _ | _, large => large
  | whole, _ | _, whole => whole
  | truth, truth => truth

/-- Cells of one form need no other. -/
theorem join_self (f : CellForm) : f.join f = f := by
  cases f <;> simp [join, textWidth]

/-- The form of the sums of numbers of two forms. -/
def sum : CellForm → CellForm → CellForm
  | any, _ | _, any => any
  | real, _ | _, real | large, _ | _, large => real
  | _, _ => whole

end CellForm

end Loadout
