import Loadout.Value.Quantity

/-! # Cells

A machine number beside a sequence is calculated with cell by cell: the sequence is laid out in memory,
as rows of cells of one form.  So is a sequence of sequences, if they are of one length.

Two arrays go together if their shapes do, seen from the last length: equal lengths go together, and a
length of one is stretched to any other.
-/

namespace Loadout

/-- The cells of an array, row by row. -/
structure Cells where
  form : CellForm
  shape : List Nat
  values : List Value

namespace CellForm

/-- The form of a cell for a single value. -/
def ofValue : Value → CellForm
  | .truth _ => truth
  | .integer n =>
    if Number.isWord n then whole
    else if 0 ≤ n ∧ n < 2 * Number.wordBound then large
    else any
  | .word _ => whole
  | .real _ | .undefined _ | .machine _ => real
  | .text s => text (max 1 s.length)
  | .bytes bs => bytes (max 1 bs.length)
  | _ => any

/-- A single value in a cell of a form that has room for it. -/
def store (form : CellForm) (v : Value) : Value :=
  match form, v.quantity? with
  | whole, some (.whole n) => .word n
  | real, some (.whole n) | real, some (.word n) => .machine (Number.nearestReal n)
  | real, some (.real x) => .machine x
  | _, _ => v

end CellForm

/-- What is known of an array while a value is laid out: how deep it is at most, whether that is
`settled`, whether its parts are of unequal lengths, its lengths, and the cells, last first. -/
structure Survey where
  depth : Nat
  settled : Bool := false
  ragged : Bool := false
  shape : List Nat := []
  form : Option CellForm := none
  cells : List Value := []

namespace Survey

/-- Arrays are not deeper than this. -/
def deepest : Nat := 64

/-- A single value at some depth. -/
def cell (s : Survey) (level : Nat) (v : Value) : Survey :=
  if s.depth < level then { s with ragged := true }
  else
    let form := match s.form with
      | some form => form.join (.ofValue v)
      | none => .ofValue v
    { s with
      depth := level
      ragged := s.ragged || (s.settled && s.depth != level)
      settled := true
      form := some form
      cells := v :: s.cells }

/-- A sequence of so many elements at some depth, and whether it is to be looked into. -/
def enter (s : Survey) (level size : Nat) : Survey × Bool :=
  if s.depth ≤ level then ({ s with ragged := true }, false)
  else if s.settled && s.shape[level]? != some size then
    ({ s with ragged := true, depth := level }, false)
  else
    let s := if s.settled then s else { s with shape := s.shape.take level ++ [size] }
    if size = 0 then ({ s with settled := true, depth := level + 1 }, false) else (s, true)

mutual

/-- Lay out a value at some depth. -/
def layOut (s : Survey) (level : Nat) : Value → Survey
  | .list xs | .tuple xs =>
    if s.depth = level then { s.cell level (.list xs) with ragged := true }
    else
      let (s, open?) := s.enter level xs.length
      if open? then layOutAll s (level + 1) xs else s
  | v => s.cell level v

def layOutAll (s : Survey) (level : Nat) : List Value → Survey
  | [] => s
  | v :: vs => layOutAll (layOut s level v) level vs

end

end Survey

namespace Cells

/-- A value laid out in memory. -/
def ofValue (v : Value) : Except Failure Cells :=
  match v with
  | .array form shape values => .ok { form, shape, values }
  | v =>
    let s := Survey.layOut { depth := Survey.deepest } 0 v
    let shape := s.shape.take s.depth
    if s.ragged then
      .error (if s.depth = Survey.deepest then .tooDeep Survey.deepest else .ragged shape)
    else
      let form := s.form.getD .real
      .ok { form, shape, values := (s.cells.reverse).map form.store }

/-- A value beside an array.  A single whole number does not get a form of its own. -/
def ofOperand : Value → Except Failure Cells
  | .integer n => .ok { form := .whole, shape := [], values := [.integer n] }
  | v => ofValue v

def toValue (c : Cells) : Value :=
  .array c.form c.shape c.values

/-- The shape of two arrays together, given their lengths from the last one on. -/
def jointShape? : List Nat → List Nat → Option (List Nat)
  | [], ns => some ns
  | ms, [] => some ms
  | m :: ms, n :: ns =>
    if m = n ∨ n = 1 then (m :: ·) <$> jointShape? ms ns
    else if m = 1 then (n :: ·) <$> jointShape? ms ns
    else none

/-- A shape goes together with itself … -/
theorem jointShape?_self (ns : List Nat) : jointShape? ns ns = some ns := by
  induction ns with
  | nil => rfl
  | cons n ns ih => simp [jointShape?, ih]

/-- … and with that of a single cell. -/
theorem jointShape?_nil_right (ns : List Nat) : jointShape? ns [] = some ns := by
  cases ns <;> rfl

/-- The cells of an array, stretched from its lengths to others. -/
def stretch : List Nat → List Nat → List Value → List Value
  | m :: ms, n :: ns, values =>
    let size := ms.foldl (· * ·) 1
    let parts := (List.range m).flatMap fun i => stretch ms ns ((values.drop (i * size)).take size)
    if m = n then parts else (List.replicate n parts).flatten
  | _, _, values => values

def stretchTo (c : Cells) (shape : List Nat) : List Value :=
  stretch (List.replicate (shape.length - c.shape.length) 1 ++ c.shape) shape c.values

/-- The shape of two arrays together, and their cells side by side. -/
def pair (a b : Cells) : Except Failure (List Nat × List (Value × Value)) :=
  match jointShape? a.shape.reverse b.shape.reverse with
  | some shape => .ok (shape.reverse, (a.stretchTo shape.reverse).zip (b.stretchTo shape.reverse))
  | none => .error (.unequalShapes a.shape b.shape)

/-- Cells that can hold any value, with ordinary numbers in the place of machine numbers. -/
def loosen (c : Cells) : Cells :=
  if c.form = .any then c
  else
    let loose : Value → Value
      | .word n => .integer n
      | .machine x => .real x
      | v => v
    { c with form := .any, values := c.values.map loose }

/-- Two arrays such that both can hold any value if one can. -/
def alongside (a b : Cells) : Cells × Cells :=
  if a.form = .any ∨ b.form = .any then (a.loosen, b.loosen) else (a, b)

/-- Cells of whole numbers that are no words, rounded. -/
def roundLarge (c : Cells) : Cells :=
  if c.form = .large then { c with form := .real, values := c.values.map CellForm.real.store } else c

/-- Calculate with two arrays, cell by cell. -/
def combine (name : String) (op : Value → Value → Except Failure Value) (a b : Cells) :
    Except Failure Cells := do
  let (a, b) := alongside a.roundLarge b.roundLarge
  if a.form.isString || b.form.isString then throw (.noOperation name a.form.name b.form.name)
  let (shape, pairs) ← a.pair b
  let values ← pairs.mapM fun (x, y) => op x y
  return { form := a.form.sum b.form, shape, values }

/-- The truth of an array of answers, which must be a single one. -/
def single : List Bool → Except Failure Bool
  | [] => .error .emptyTruth
  | [b] => .ok b
  | _ => .error .ambiguousTruth

/-- Ask a question of two arrays, cell by cell. -/
def ask (name : String) (op : Value → Value → Except Failure Bool) (a b : Cells) :
    Except Failure Bool := do
  let (a, b) := alongside a b
  if a.form.isString || b.form.isString then
    throw (.noOperation name a.form.className b.form.className)
  let (_, pairs) ← a.pair b
  single (← pairs.mapM fun (x, y) => op x y)

/-- Whether two arrays are equal.  A number is equal to no text. -/
def equal (a b : Cells) : Except Failure Bool := do
  let (a, b) := alongside a b
  let (_, pairs) ← a.pair b
  single (← pairs.mapM fun (x, y) => do
    match ← x.numbers? y with
    | some (x, y) => return x.agree y
    | none => return false)

end Cells

namespace Value

/-- Whether a value is a machine number or an array of such. -/
def isMachine : Value → Bool
  | word _ | machine _ | array .. => true
  | _ => false

def isSequence : Value → Bool
  | list _ | tuple _ => true
  | _ => false

def isArray : Value → Bool
  | array .. => true
  | _ => false

/-- Whether a value is a text or a string of bytes. -/
def isString : Value → Bool
  | text _ | bytes _ => true
  | _ => false

/-- Whether two values are calculated with cell by cell. -/
def meetInCells (a b : Value) : Bool :=
  a.isArray || b.isArray || a.isMachine && b.isSequence || a.isSequence && b.isMachine

/-- The truth of a value.  Only an array may have none. -/
def truth? : Value → Except Failure Bool
  | array _ _ cells => Cells.single (cells.map isTrue)
  | v => .ok v.isTrue

/-- The cells of an array, in lists of its lengths. -/
def nested : List Nat → List Value → List Value
  | n :: m :: shape, cells =>
    let size := (m :: shape).foldl (· * ·) 1
    (List.range n).map fun i => list (nested (m :: shape) ((cells.drop (i * size)).take size))
  | _, cells => cells

/-- The elements of an array: single cells, or arrays if it has more than one length. -/
def arrayElements (form : CellForm) : List Nat → List Value → List Value
  | n :: m :: shape, cells =>
    let size := (m :: shape).foldl (· * ·) 1
    (List.range n).map fun i => array form (m :: shape) ((cells.drop (i * size)).take size)
  | _, cells => cells

end Value

end Loadout
