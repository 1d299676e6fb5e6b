import Loadout.Value.Equality

/-! # Order of values

Numbers are in order by their exact values, texts and bytes by their characters, sequences of one
kind by the first place at which they differ, sets by inclusion.  A machine number beside a sequence is
compared cell by cell.  Values of other kinds, or of kinds that do not go together, are in no order.
-/

namespace Loadout

/-- The four questions that can be asked about the order of two values. -/
inductive Comparison
  | lt
  | le
  | gt
  | ge
deriving DecidableEq, Repr

namespace Comparison

/-- The question that has the same answer with the two values exchanged. -/
def flip : Comparison → Comparison
  | lt => gt
  | le => ge
  | gt => lt
  | ge => le

/-- The name of the question where it is asked of a table in memory. -/
def wordName : Comparison → String
  | lt => "less"
  | le => "less_equal"
  | gt => "greater"
  | ge => "greater_equal"

def symbol : Comparison → String
  | lt => "<"
  | le => "<="
  | gt => ">"
  | ge => ">="

/-- The answer for two exact values. -/
def onNumbers : Comparison → Number.Exact → Number.Exact → Bool
  | lt, a, b => a.lt b
  | le, a, b => a.le b
  | gt, a, b => b.lt a
  | ge, a, b => b.le a

/-- The answer for two things of which the first may be below and may be above the second. -/
def onOrder : Comparison → (below above : Bool) → Bool
  | lt, below, _ => below
  | le, _, above => !above
  | gt, _, above => above
  | ge, below, _ => !below

/-- The answer for two sets, by inclusion. -/
def onSets : Comparison → (within around : Bool) → Bool
  | lt, within, around => within && !around
  | le, within, _ => within
  | gt, within, around => around && !within
  | ge, _, around => around

end Comparison

namespace Value

def lexicographic : List UInt8 → List UInt8 → Bool
  | _, [] => false
  | [], _ :: _ => true
  | b :: bs, c :: cs => b < c || b == c && lexicographic bs cs

/-- Why two values are in no order.  A machine number answers the question for both sides. -/
def notInOrder (op : Comparison) (left right : Value) : Failure :=
  let refuse (op : Comparison) (left right : Value) : Failure :=
    if right.isString then
      .noOperation op.wordName (CellForm.ofValue left).className (CellForm.ofValue right).className
    else .unordered op.symbol left.kind.operand right.kind.operand
  if left.isMachine then refuse op left right
  else if right.isMachine then refuse op.flip right left
  else .unordered op.symbol left.kind right.kind

/-- The answer for two values of which none is a text or a sequence. -/
def compareSingle (op : Comparison) (a b : Value) : Except Failure Bool := do
  match ← a.numbers? b with
  | some (x, y) => return op.onNumbers x y
  | none =>
    match a.setElements?, b.setElements? with
    | some xs, some ys => return op.onSets (allIn xs ys) (allIn ys xs)
    | _, _ => throw (notInOrder op a b)

/-- The answer for two values cell by cell, which is a question to the machine number or the array among
them. -/
def compareInCells (op : Comparison) (a b : Value) : Except Failure Bool := do
  let ask (op : Comparison) (a b : Value) : Except Failure Bool := do
    Cells.ask op.wordName (compareSingle op) (← Cells.ofOperand a) (← Cells.ofOperand b)
  if a.isMachine then ask op a b else ask op.flip b a

mutual

/-- The answer to a question about the order of two values. -/
def compare (op : Comparison) : Value → Value → Except Failure Bool
  | text s, text t => .ok (op.onOrder (s < t) (t < s))
  | bytes bs, bytes cs => .ok (op.onOrder (lexicographic bs cs) (lexicographic cs bs))
  | list xs, list ys => compareAll op xs ys
  | tuple xs, tuple ys => compareAll op xs ys
  | a, b => if a.meetInCells b then compareInCells op a b else compareSingle op a b

/-- The answer for two sequences: that of the first place at which they differ. -/
def compareAll (op : Comparison) : List Value → List Value → Except Failure Bool
  | [], ys => .ok (op.onOrder (!ys.isEmpty) false)
  | _ :: _, [] => .ok (op.onOrder false true)
  | x :: xs, y :: ys => do if ← alike x y then compareAll op xs ys else compare op x y

end

end Value

end Loadout
