import Loadout.Call
import Loadout.Value.Wording
import Loadout.Value.Cells
import Loadout.Value.Sameness

/-! # Values with a caller

The elements of an iterator can be read once, so reading them is a computation with a state: the
caller keeps what is left of each iterator, and also which questions it was asked.
-/

namespace Loadout

/-- What the caller of a solver keeps. -/
structure Caller where
  /-- The elements that are left of each iterator, by its label. -/
  iterators : Array (List Value) := #[]
  /-- The label of the next undefined number. -/
  nextUndefined : Nat := 0
  /-- The pairs whose conflict was asked for, in order. -/
  pairsAsked : Array (Value × Value) := #[]
  /-- The vertices whose weight was asked for, in order. -/
  weightsAsked : Array Value := #[]

namespace Value

/-- An undefined number that is none of those before. -/
def freshUndefined : Call Caller Value :=
  fun c => (.ok (undefined c.nextUndefined), { c with nextUndefined := c.nextUndefined + 1 })

mutual

/-- The kind of the first part of a value that can be changed and so cannot be an element of a
set. -/
def changeable? : Value → Option Kind
  | list _ => some .list
  | set _ => some .set
  | mapping _ => some .mapping
  | array .. => some .array
  | tuple xs => changeableIn? xs
  | equipment id name _ bonuses =>
    (id.changeable?.or name.changeable?).or (changeablePair? bonuses)
  | _ => none

def changeableIn? : List Value → Option Kind
  | [] => none
  | x :: xs => x.changeable?.or (changeableIn? xs)

def changeablePair? : List (Value × Value) → Option Kind
  | [] => none
  | (k, v) :: es => (k.changeable?.or v.changeable?).or (changeablePair? es)

end

/-- Succeeds for a value that can be an element of a set. -/
def beElement (v : Value) : Except Failure Unit :=
  match v.changeable? with
  | some kind => .error (.unhashable kind)
  | none => .ok ()

/-- The pairwise different values of a list, in order of first occurrence. -/
def distinct (xs : List Value) : Except Failure (List Value) := do
  xs.forM beElement
  return xs.eraseDups

/-- A list of pairs as the entries of a mapping: a repeated key keeps its place and takes the later
value. -/
def insertEntry (entries : List (Value × Value)) (key value : Value) : List (Value × Value) :=
  if entries.any (·.1 == key) then
    entries.map fun e => if e.1 == key then (e.1, value) else e
  else entries ++ [(key, value)]

def entriesOf (pairs : List (Value × Value)) : Except Failure (List (Value × Value)) :=
  pairs.foldlM (fun entries (key, value) => do
    key.beElement
    return insertEntry entries key value) []

/-- How many elements a value has. -/
def size : Value → Except Failure Nat
  | text s => .ok s.length
  | bytes bs => .ok bs.length
  | list xs | tuple xs | set xs | frozen xs => .ok xs.length
  | mapping entries => .ok entries.length
  | array _ (n :: _) _ => .ok n
  | v => .error (.noLength v.kind)

/-- The elements of a value, unless it is an iterator. -/
def elements? : Value → Except Failure (List Value)
  | text s => .ok (s.toList.map fun c => text c.toString)
  | bytes bs => .ok (bs.map fun b => integer b.toNat)
  | list xs | tuple xs | set xs | frozen xs => .ok xs
  | mapping entries => .ok (entries.map (·.1))
  | array form shape cells => .ok (arrayElements form shape cells)
  | v => .error (.notIterable v.kind)

/-- The elements of a value.  Reading an iterator leaves it empty. -/
def elements : Value → Call Caller (List Value)
  | iterator label => fun caller =>
    (.ok (caller.iterators.getD label []),
      { caller with iterators := caller.iterators.setIfInBounds label [] })
  | v => .ofExcept v.elements?

/-- Read elements up to the first that is found, and answer whether there is one and what is left
to read. -/
def scan (found : Value → Except Failure Bool) : List Value → Except Failure Bool × List Value
  | [] => (.ok false, [])
  | x :: xs =>
    match found x with
    | .ok true => (.ok true, xs)
    | .ok false => scan found xs
    | .error e => (.error e, xs)

/-- Whether some element of a value is found.  No element after it is read. -/
def anyElement (v : Value) (found : Value → Except Failure Bool) : Call Caller Bool :=
  match v with
  | iterator label => fun caller =>
    let (result, rest) := scan found (caller.iterators.getD label [])
    (result, { caller with iterators := caller.iterators.setIfInBounds label rest })
  | v => .ofExcept (v.elements? >>= fun xs => (scan found xs).1)

/-- The pairwise different elements of a value. -/
def toSet (v : Value) : Call Caller (List Value) := do
  let xs ← v.elements
  .ofExcept (distinct xs)

/-- The wordings of the elements of a value. -/
def wordings (v : Value) : Call Caller (List String) := do
  let xs ← v.elements
  .ofExcept (xs.mapM wording)

/-- The text of the elements of a value, in braces. -/
def setText (v : Value) : Call Caller String := do
  let xs ← v.elements
  let labels ← .ofExcept (xs.mapM label)
  return braced labels

/-- The text of the elements of a value, each labelled as a vertex, in braces. -/
def selectionText (v : Value) : Call Caller String := do
  let xs ← v.elements
  let labels ← .ofExcept (xs.mapM vertexLabel)
  return braced labels

/-- What a value has under a name. -/
def member (v : Value) (name : String) : Except Failure Value :=
  let absent := .error (.noMember v.kind.longName name)
  match v with
  | equipment i n slots bonuses =>
    if name = "id" then .ok i
    else if name = "name" then .ok n
    else if name = "occupied_slots" then .ok (frozen slots)
    else if name = "bonuses" then .ok (tuple (bonuses.map fun (k, x) => tuple [k, x]))
    else absent
  | slot s =>
    if name = "name" then .ok (text s.name)
    else if name = "value" then .ok (text s.value)
    else absent
  | thing _ attributes =>
    match attribute? attributes name with
    | some x => .ok x
    | none => absent
  | _ => absent

end Value

end Loadout
