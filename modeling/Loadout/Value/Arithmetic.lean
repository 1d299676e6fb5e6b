import Loadout.Number.Numeral
import Loadout.Number.Places
import Loadout.Value.Cells
import Loadout.Value.Sameness

/-! # Arithmetic of values

Numbers are calculated with as quantities, and a machine number beside a sequence cell by cell.
Sequences can be repeated, sets can be taken from sets, and a text that holds a numeral can be read as a
real number; nothing else has an arithmetic.
-/

namespace Loadout

/-- An operation on two values, by its sign and by the name that it has for tables in memory. -/
structure Operator where
  symbol : String
  wordName : String

namespace Operator

def plus : Operator := ⟨"+", "add"⟩

def minus : Operator := ⟨"-", "subtract"⟩

def times : Operator := ⟨"*", "multiply"⟩

def modulo : Operator := ⟨"%", "remainder"⟩

/-- Why an operation does not apply to two values. -/
def notApplicable (o : Operator) (left right : Value) : Failure :=
  if left.isMachine && right.isString || left.isString && right.isMachine then
    .noOperation o.wordName (CellForm.ofValue left).name (CellForm.ofValue right).name
  else if left.isMachine || right.isMachine then
    .unsupported o.symbol left.kind.operand right.kind.operand
  else .unsupported o.symbol left.kind right.kind

end Operator

namespace Value

/-- A value read as a real number. -/
def measure : Value → Except Failure Float
  | text s =>
    match Number.real? s with
    | some x => .ok x
    | none => .error (.notRealNumeral (Text.quote s))
  | bytes bs =>
    match if bs.all (· < 0x80) then
        Number.real? (String.ofList (bs.map fun b => Char.ofNat b.toNat)) else none with
    | some x => .ok x
    | none => .error (.notRealNumeral (Text.quoteBytes bs))
  | v =>
    match v.quantity? with
    | some q => q.toReal
    | none => .error (if v.isArray then .notScalar else .notReal v.kind)

/-- A value as a real number; a real number stays itself. -/
def toReal : Value → Except Failure Value
  | real x => .ok (real x)
  | undefined label => .ok (undefined label)
  | v => real <$> v.measure

/-- The result of an operation for two values, cell by cell. -/
def inCells (o : Operator) (onSingle : Value → Value → Except Failure Value) (a b : Value) :
    Except Failure Value := do
  return (← Cells.combine o.wordName onSingle (← Cells.ofOperand a) (← Cells.ofOperand b)).toValue

/-- The sum of two single values. -/
def addSingle (a b : Value) : Except Failure Value :=
  match a.quantity?, b.quantity? with
  | some x, some y => Quantity.toValue <$> x.combine (· + ·) (· + ·) y
  | _, _ => .error (Operator.plus.notApplicable a b)

/-- The sum of two numbers, or of arrays of them. -/
def add (a b : Value) : Except Failure Value :=
  if a.meetInCells b then inCells .plus addSingle a b else addSingle a b

/-- The difference of two single values. -/
def subSingle (a b : Value) : Except Failure Value :=
  match a.quantity?, b.quantity? with
  | some x, some y => Quantity.toValue <$> x.combine (· - ·) (· - ·) y
  | _, _ =>
    match a, b with
    | set xs, set ys | set xs, frozen ys => .ok (set (xs.filter fun x => !ys.contains x))
    | frozen xs, set ys | frozen xs, frozen ys => .ok (frozen (xs.filter fun x => !ys.contains x))
    | _, _ => .error (Operator.minus.notApplicable a b)

/-- The difference of two numbers, of two sets, or of arrays. -/
def sub (a b : Value) : Except Failure Value :=
  if a.meetInCells b then inCells .minus subSingle a b else subSingle a b

/-- A whole number, for counting with. -/
def whole? : Value → Option Int
  | truth b => some b.toInt
  | integer n | word n => some n
  | _ => none

/-- What a sequence is called in a failure, and how to write it several times over. -/
structure Repetition where
  length : Nat
  tooLong : Failure
  times : Nat → Value

/-- How to repeat a value, if it is a sequence. -/
def repetition? : Value → Option Repetition
  | text s =>
    some ⟨s.length, .repeatedTooLong "string is",
      fun n => text (String.join (List.replicate n s))⟩
  | bytes bs =>
    some ⟨bs.length, .repeatedTooLong "bytes are", fun n => bytes (List.replicate n bs).flatten⟩
  | list xs => some ⟨xs.length, .outOfMemory, fun n => list (List.replicate n xs).flatten⟩
  | tuple xs => some ⟨xs.length, .outOfMemory, fun n => tuple (List.replicate n xs).flatten⟩
  | _ => none

/-- No more than this many members of a sequence find room. -/
def room : Nat := Nat.pow 2 40

/-- A sequence `n` times over; none if the count is negative. -/
def Repetition.of (r : Repetition) (n : Int) : Except Failure Value :=
  if !Number.isWord n then .error .uncountable
  else if r.length = 0 then .ok (r.times 0)
  else if Number.wordBound ≤ r.length * n.toNat then .error r.tooLong
  else if room < r.length * n.toNat then .error .outOfMemory
  else .ok (r.times n.toNat)

/-- A sequence as many times over as a value says. -/
def Repetition.byValue (r : Repetition) (count : Value) : Except Failure Value :=
  match count.whole? with
  | some n => r.of n
  | none => .error (.unrepeatable count.kind)

/-- The product of two numbers, or of a sequence and a count. -/
def mul (a b : Value) : Except Failure Value :=
  match a.quantity?, b.quantity? with
  | some x, some y => Quantity.toValue <$> x.combine (· * ·) (· * ·) y
  | _, _ =>
    match a.repetition?, b.repetition? with
    | some r, _ => r.byValue b
    | none, some r => r.byValue a
    | none, none => .error (Operator.times.notApplicable a b)

/-- The remainder of two whole numbers, with the sign of the divisor; a machine word divided by zero
leaves zero. -/
def mod (a b : Value) : Except Failure Value :=
  match a.quantity?, b.quantity? with
  | some (.whole _), some (.whole 0) => .error .zeroModulus
  | some (.real _), _ | _, some (.real _) => .error (Operator.modulo.notApplicable a b)
  | some x, some y =>
    Quantity.toValue <$> x.combine (fun m n => if n = 0 then 0 else Int.fmod m n) (fun x _ => x) y
  | _, _ => .error (Operator.modulo.notApplicable a b)

/-- The absolute value of a single number. -/
def magnitudeSingle (a : Value) : Except Failure Value :=
  match a.quantity? with
  | some (.whole n) => .ok (integer n.natAbs)
  | some (.word n) => .ok (word (Number.wrapWord n.natAbs))
  | some (.real x) => .ok (real x.abs)
  | some (.machine x) => .ok (machine x.abs)
  | none => .error (.noMagnitude a.kind)

/-- The absolute value of a number, or of the cells of an array. -/
def magnitude : Value → Except Failure Value
  | array form shape cells => array form shape <$> cells.mapM magnitudeSingle
  | v => v.magnitudeSingle

/-- The text of a weight, with up to four places. -/
def weightText (v : Value) : Except Failure String :=
  match v with
  | text _ | slot _ => .error .placesOfText
  | _ =>
    match v.quantity? with
    | some q => Number.weightText <$> q.toReal
    | none => .error (.noPlaces v.kind)

/-- The value of a truth, a count or any other number is exact; rounding it is `measure`. -/
theorem number?_isSome_iff (v : Value) : v.number?.isSome ↔ v.quantity?.isSome := by
  cases v <;> simp [number?, quantity?]

end Value

end Loadout
