import Loadout.Entry.Solver
import Loadout.Graph.Components

/-! # Graphs of values

Building a graph of values of all kinds, and asking it questions.  A question about something that
is not a vertex, or about an index that the graph does not have, is reported before it fails.
-/

namespace Loadout.Entry

open Number (integerText)

abbrev ValueGraph := Graph Caller Value

/-- Report a failure, and fail. -/
def report {α : Type} (failure : Failure) : Run Caller α := do
  Run.write (.note .error failure.message)
  throw failure

/-- Fail for a value that is not a vertex. -/
def failUnknown {α : Type} (v : Value) : Run Caller α := do
  let shown ← Run.ofExcept v.shown
  report (.unknownVertex shown)

/-- Fail for something that is not an index of a graph of the given size. -/
def failIndex {α : Type} (index : Value) (size : Except Failure String) : Run Caller α := do
  let shown ← Run.ofExcept index.wording
  let size ← Run.ofExcept size
  report (.invalidIndex shown size)

def build (vertices : Value) (predicate : Supplied ValueRelation) : Run Caller ValueGraph := do
  let vertices ← Run.ofExcept (requireCollection "vertices" vertices)
  let predicate ← Run.ofExcept (predicate.require "predicate")
  Run.ask (Graph.build (← Run.ask vertices.toSet) predicate.holds)

/-- Whether the collections that belong to two values share an element. -/
def transformedIntersect (transform : ValueFunction) : ValueRelation := fun a b => do
  let left ← transform a
  let right ← transform b
  return .truth (← left.intersects right)

/-- The intersection graph of collections, or of what a function makes of the vertices. -/
def buildIntersection (vertices : Value) (transform : Supplied ValueFunction) :
    Run Caller ValueGraph :=
  match transform with
  | .value .nothing => build vertices (.function fun a b => .truth <$> a.intersects b)
  | transform => do
    let transform ← Run.ofExcept (transform.require "transform")
    build vertices (.function (transformedIntersect transform))

variable (g : ValueGraph)

/-- The index of a vertex.  What can be changed cannot be a vertex. -/
def indexOf? (v : Value) : Option Nat :=
  if v.changeable?.isSome then none else g.indexOf? v

def contains (v : Value) : Bool :=
  (indexOf? g v).isSome

def indexOf (v : Value) : Run Caller Nat :=
  match indexOf? g v with
  | some i => pure i
  | none => failUnknown v

/-- A whole number that can be an index; truth values cannot.  An array that has no lengths stands for
the number in its only cell. -/
def position? : Value → Option Int
  | .integer n | .word n => some n
  | .array .whole [] [.word n] | .array .large [] [.integer n] => some n
  | _ => none

/-- The vertex at an index. -/
def vertexAt (index : Value) : Run Caller Value :=
  let fail := failIndex index (.ok (integerText g.size))
  match position? index with
  | none => fail
  | some n =>
    if 0 ≤ n then
      match g.vertices[n.toNat]? with
      | some v => pure v
      | none => fail
    else fail

def neighborCount (v : Value) : Run Caller Nat := do
  let i ← indexOf g v
  return g.countAt i

def isNeighbor (v w : Value) : Run Caller Bool := do
  let i ← indexOf g v
  let j ← indexOf g w
  return g.areNeighbors i j

def neighbors (v : Value) : Run Caller (List Value) := do
  let i ← indexOf g v
  return g.neighborsAt i

/-- The first components, of which there must be as many. -/
def firstComponents (count : Nat) : Except Failure (List (List Value)) :=
  if g.components.length < count then .error .exhausted else .ok (g.components.take count)

/-- Assigning a cell of the adjacency table fails: a graph does not change. -/
def setCell : Except Failure Unit :=
  .error .readOnly

/-- A graph of the named kind in words. -/
def shownAs (kind : String) : String :=
  kind ++ "(vertices=" ++ integerText g.size ++ ", adjacent_pairs=" ++ integerText g.pairCount
    ++ ")"

def findInGraph (weight : Supplied ValueFunction) (settings : Settings) :
    Run Caller (List Value) := do
  let weight ← Run.ofExcept (weight.require "weight")
  ByComponent.findInGraph vertexLabels settings.sizeLimit g (weighing weight)

end Loadout.Entry
