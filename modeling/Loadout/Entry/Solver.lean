import Loadout.Entry.Argument
import Loadout.Equipment
import Loadout.Gear.Selection
import Loadout.Journal.Dynamic
import Loadout.Journal.Layout
import Loadout.Selection.DisjointRow
import Loadout.Settings
import Loadout.Value.Intersection

/-! # Solving for values

The solvers for vertices, weights and slots of all kinds.  The arguments are checked first, in
order; then the vertices are read, of which equal ones count once.  The tables of a journal are laid
out by `Layout.layOut` unless the solver is told otherwise.
-/

namespace Loadout.Entry

/-- Weights of all kinds: compared as they are, and read as real numbers. -/
def weighing (weight : ValueFunction) : Weighing Caller Value Value Float where
  weigh := weight
  atLeast a b := a.compare .ge b
  measure := Value.measure

def vertexLabels : Labels Caller Value Float where
  vertex v := .ofExcept v.vertexLabel
  weight := Number.weightText

/-- Candidates that are collections are labelled by their elements. -/
def collectionLabels : Labels Caller Value Float where
  vertex v := v.setText
  weight := Number.weightText

/-- The different elements of a collection that a solver is given. -/
def read (collection : Value) : Run Caller (List Value) :=
  Run.ask collection.toSet

def findByComponent (vertices : Value) (predicate : Supplied ValueRelation)
    (weight : Supplied ValueFunction) (settings : Settings) : Run Caller (List Value) := do
  let vertices ← Run.ofExcept (requireCollection "vertices" vertices)
  let predicate ← Run.ofExcept (predicate.require "predicate")
  let weight ← Run.ofExcept (weight.require "weight")
  ByComponent.find vertexLabels settings.sizeLimit (← read vertices) predicate.holds
    (weighing weight)

def findExhaustive (vertices : Value) (predicate : Supplied ValueRelation)
    (weight : Supplied ValueFunction) : Run Caller (List Value) := do
  let vertices ← Run.ofExcept (requireCollection "vertices" vertices)
  let predicate ← Run.ofExcept (predicate.require "predicate")
  let weight ← Run.ofExcept (weight.require "weight")
  Exhaustive.find vertexLabels (← read vertices) predicate.holds (weighing weight)

def findDisjointRow (candidates : Value) (weight : Supplied ValueFunction)
    (typeset : Typesetter := Layout.layOut) : Run Caller (List Value) := do
  let candidates ← Run.ofExcept (requireCollection "candidates" candidates)
  let weight ← Run.ofExcept (weight.require "weight")
  DisjointRow.find collectionLabels typeset.ofTexts (← read candidates) Value.intersects
    (weighing weight)

/-- The slots that a value says it occupies. -/
def occupiedSlots (v : Value) : Call Caller Value :=
  .ofExcept (v.member "occupied_slots")

def wardrobe (typeset : Typesetter) (weight slots : ValueFunction) :
    Gear.Wardrobe Caller Value Value Value Float where
  weighing := weighing weight
  slots v := slots v >>= Value.toSet
  labels := vertexLabels
  slotLabel v := .ofExcept v.label
  tabulate := typeset.ofTexts
  absent := Value.isNothing

def findGear (candidates : Value) (weight slots : Supplied ValueFunction) (settings : Settings)
    (typeset : Typesetter := Layout.layOut) : Run Caller (List Value) :=
  Run.executing "find" do
    let candidates ← Run.ofExcept (requireCollection "candidates" candidates)
    let weight ← Run.ofExcept (weight.require "weight")
    let slots ← Run.ofExcept (slots.requireOr "slots" occupiedSlots)
    Gear.find (wardrobe typeset weight slots) settings.sizeLimit (← read candidates)

/-- What comes of a plain value in the place of a graph.  It may have a size, but it has neither
vertices nor components. -/
def findInPlain (graph : Value) (weight : Supplied ValueFunction) : Run Caller (List Value) := do
  let graph ← Run.ofExcept (requireCollection "graph" graph)
  let _ ← Run.ofExcept (weight.require "weight")
  let size ← Run.ofExcept graph.size
  if size < 2 then
    throw (.noMember graph.kind.longName "vertices")
  Run.write (.openSection
    ("Maximum weight independent set over " ++ Number.integerText size ++ " vertices"))
  Run.journalled (throw (.noMember graph.kind.longName "adjacency"))
  throw (.noMember graph.kind.longName "component_indices")

end Loadout.Entry
