import Loadout.Graph.Adjacency
import Loadout.Number.Word
import Loadout.Value.Caller

/-! # Values as storage

The cells of a table can be stored in nested lists, in arrays, or in anything else whose elements can
be reached and replaced by their places.
-/

namespace Loadout

namespace Value

/-- The element at a place. -/
def item (v : Value) (i : Nat) : Except Failure Value :=
  let orRange (place : String) (found : Option Value) : Except Failure Value :=
    match found with
    | some x => .ok x
    | none => .error (.outOfRange place)
  match v with
  | list xs => orRange "list index" xs[i]?
  | tuple xs => orRange "tuple index" xs[i]?
  | text s => orRange "string index" (s.toList[i]?.map fun c => text c.toString)
  | bytes bs => orRange "index" (bs[i]?.map fun b => integer b.toNat)
  | mapping entries =>
    match entries.find? fun e => e.1 == integer i with
    | some (_, x) => .ok x
    | none => .error (.missingKey (Number.integerText i))
  | array form (n :: shape) cells =>
    match (arrayElements form (n :: shape) cells)[i]? with
    | some x => .ok x
    | none => .error (.outOfBounds i n)
  | array _ [] _ => .error .noAxis
  | word _ | machine _ => .error .scalarIndex
  | v => .error (.notSubscriptable v.kind)

/-- The cells of an array with those of another element at a place. -/
def putCells (cells : List Value) (i : Nat) (element : List Value) : List Value :=
  cells.take (i * element.length) ++ element ++ cells.drop ((i + 1) * element.length)

/-- A value with another element at a place that it has. -/
def withItem (v : Value) (i : Nat) (x : Value) : Value :=
  match v, x with
  | list xs, x => list (xs.set i x)
  | tuple xs, x => tuple (xs.set i x)
  | mapping entries, x => mapping (insertEntry entries (integer i) x)
  | array form (n :: m :: shape) cells, array _ _ element =>
    array form (n :: m :: shape) (putCells cells i element)
  | array form shape cells, x => array form shape (cells.set i x)
  | v, _ => v

/-- Assign the element at a place.  In an array, all cells of the element are set. -/
def assign (v : Value) (i : Nat) (x : Value) : Except Failure Value :=
  match v with
  | list xs =>
    if i < xs.length then .ok (list (xs.set i x)) else .error (.outOfRange "list assignment index")
  | mapping _ => .ok (v.withItem i x)
  | array form (n :: shape) cells =>
    let element := List.replicate (shape.foldl (· * ·) 1) (form.store x)
    if i < n then .ok (array form (n :: shape) (putCells cells i element))
    else .error (.outOfBounds i n)
  | array _ [] _ => .error .noAxis
  | v => .error (.notAssignable v.kind)

/-- A value with another element at a place of the element at a place. -/
def withCell (v : Value) (i j : Nat) (x : Value) : Except Failure Value := do
  let row ← v.item i
  let row ← row.assign j x
  return v.withItem i row

instance : Grid Value where
  put i j b := fun v =>
    match v.withCell i j (truth b) with
    | .ok w => (.ok (), w)
    | .error e => (.error e, v)

end Value

/-- No more than this many cells find room. -/
def cellRoom : Nat := Nat.pow 2 30

/-- A blank table of a size, and as many counts. -/
def buffersOfSize (n : Int) : Except Failure (Table × Array Int) :=
  if !Number.isWord n then .error .sizeTooLarge
  else if n < 0 then .error .negativeSize
  else if Number.wordBound ≤ n * n then .error .tableTooLarge
  else if cellRoom < n * n then .error (.noRoomForTable n.toNat)
  else .ok (.blank n.toNat, Array.replicate n.toNat 0)

/-- A blank table and as many counts as a value says. -/
def newBuffers : Value → Except Failure (Table × Array Int)
  | .integer n | .word n => buffersOfSize n
  | .truth _ => .error .truthAsSize
  | v => .error (.notInteger v.kind)

end Loadout
