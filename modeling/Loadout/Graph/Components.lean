import Loadout.Graph.Basic

/-! # Components

The components of a graph, each as the ascending list of its indices, in ascending order of their
least indices.  A component is what can be reached from its least index by a depth-first search that
leaves out what earlier searches have visited.

The search ends because each step either visits an index for the first time or shortens the stack.
-/

namespace Loadout

namespace Table

/-- A first visit leaves fewer indices unvisited. -/
theorem count_visit_lt {visited : Array Bool} {i : Nat} (h : visited[i]? = some false) :
    (visited.setIfInBounds i true).count false < visited.count false := by
  obtain ⟨hi, hv⟩ := Array.getElem?_eq_some_iff.1 h
  have : 0 < visited.count false := Array.count_pos_iff.2 (hv ▸ Array.getElem_mem hi)
  rw [Array.setIfInBounds, dif_pos hi, Array.count_set hi, hv]
  change visited.count false - 1 + 0 < visited.count false
  omega

/-- Search from the indices on a stack.  Answers what was found, in the order of the visits, and
which indices are visited then. -/
def search (t : Table) (stack : List Nat) (visited : Array Bool) (found : List Nat) :
    List Nat × Array Bool :=
  match stack with
  | [] => (found, visited)
  | i :: stack =>
    if _ : visited[i]? = some false then
      t.search ((t.columns i).reverse ++ stack) (visited.setIfInBounds i true) (found ++ [i])
    else t.search stack visited found
termination_by (visited.count false, stack.length)
decreasing_by
  · exact Prod.Lex.left _ _ (count_visit_lt ‹_›)
  · exact Prod.Lex.right _ (Nat.lt_succ_self _)

/-- The components found from a list of starting indices, given what is visited already. -/
def componentsFrom (t : Table) : List Nat → Array Bool → List (List Nat)
  | [], _ => []
  | start :: starts, visited =>
    if visited[start]? = some false then
      let (found, visited) := t.search [start] visited []
      found.mergeSort :: t.componentsFrom starts visited
    else t.componentsFrom starts visited

/-- The components of a table on `size` indices. -/
def components (t : Table) (size : Nat) : List (List Nat) :=
  t.componentsFrom (List.range size) (Array.replicate size false)

end Table

namespace Graph

variable {τ α : Type} (g : Graph τ α)

def componentIndices : List (List Nat) :=
  g.table.components g.size

def components : List (List α) :=
  g.componentIndices.map g.verticesAt

end Graph

end Loadout
