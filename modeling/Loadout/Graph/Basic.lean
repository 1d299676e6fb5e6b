import Loadout.Graph.Adjacency

/-! # Graphs

A graph is a list of pairwise different vertices with the adjacency table of a relation.  The table
is made once, when the graph is built, and the relation is asked no more after that.

A vertex is found by its index, the place at which it first occurred in the list that the graph was
built from.
-/

namespace Loadout

structure Graph (τ α : Type) where
  vertices : List α
  adjacent : α → α → Call τ Bool
  table : Table
  counts : Array Nat

namespace Graph

variable {τ α : Type}

/-- The graph of a relation on the different values of a list. -/
def build [BEq α] (values : List α) (adjacent : α → α → Call τ Bool) : Call τ (Graph τ α) := do
  let vertices := values.eraseDups
  let (table, counts) ← Call.onSheet (Table.blank vertices.length)
    (Array.replicate vertices.length 0) (Sheet.fillWithCounts adjacent vertices)
  return { vertices, adjacent, table, counts }

variable (g : Graph τ α)

def size : Nat :=
  g.vertices.length

/-- The index of a vertex. -/
def indexOf? [BEq α] (v : α) : Option Nat :=
  g.vertices.findIdx? (· == v)

/-- The vertices at the given indices. -/
def verticesAt (indices : List Nat) : List α :=
  indices.filterMap (g.vertices[·]?)

/-- The neighbours of the vertex at an index, in ascending order of their indices. -/
def neighborsAt (i : Nat) : List α :=
  g.verticesAt (g.table.columns i)

/-- The number of neighbours of the vertex at an index, as it was counted. -/
def countAt (i : Nat) : Nat :=
  g.counts.getD i 0

/-- Whether the vertices at two indices are adjacent; a vertex is not its own neighbour. -/
def areNeighbors (i j : Nat) : Bool :=
  i != j && g.table.cell i j

/-- The number of ordered pairs of neighbours. -/
def pairCount : Nat :=
  g.counts.foldl (· + ·) 0

/-- The rows of the adjacency table. -/
def rows : List (List Bool) :=
  g.table.toList.map Array.toList

end Graph

end Loadout
