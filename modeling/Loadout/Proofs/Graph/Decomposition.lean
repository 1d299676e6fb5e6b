import Loadout.Proofs.Graph.Representation
import Loadout.Proofs.Graph.RowByRow

/-!
# The components of every graph

Whatever is answered while a graph is built, its table is square, `Graph.build_square`.  This is all
that a decomposition needs, so the components of a graph are what they should be for every relation,
symmetric or not, and even for one that does not give the same answer twice,
`Graph.build_partitioned`.  If the relation does, and is symmetric, then a component is all that
chains of related vertices join.
-/

namespace Loadout

open Call Relation

variable {τ α γ : Type} {n : Nat}

/-! ## Tables stay square -/

theorem Table.Square.put {t : Table} (h : t.Square n) (i j : Nat) (b : Bool) :
    ((Grid.put i j b : Call Table Unit) t).2.Square n := by
  simp only [Grid.put]
  split
  next hi =>
    split
    · exact h.set (h.size ▸ hi)
    · exact h
  · exact h

namespace Sheet

variable {adjacent : α → α → Call τ Bool} {finish : Nat → Nat → Call (Sheet Table γ τ) Unit}

/-- The table of a sheet has as many rows as columns. -/
def IsSquare (n : Nat) (s : Sheet Table γ τ) : Prop :=
  s.grid.Square n

theorem preserves_isSquare (hfinish : ∀ i count, Preserves (IsSquare n) (finish i count))
    (values rest : List (α × Nat)) :
    Preserves (IsSquare n) (fillRows adjacent finish values rest) := by
  refine preserves_fillRows (fun a b ↦ .zoom_apart _ fun _ _ hs ↦ hs) (fun i j b ↦ ?_) hfinish
    values rest
  have hput : Preserves (Table.Square n) (Grid.put i j b : Call Table Unit) :=
    Preserves.iff_snd.mpr fun _ ht ↦ ht.put i j b
  exact hput.zoom (fun _ ↦ rfl) fun _ _ ↦ rfl

variable {fails : Failure → Sheet Table γ τ → Prop}

/-- There is a cell for every answer about places within a square table. -/
theorem answers_fillRow {i : Nat} {left : α} {rest : List (α × Nat)} {count : Nat} (hi : i < n)
    (h : ∀ r ∈ rest, r.2 < n ∧ Ends (adjacent left r.1) (fun _ ↦ True) fun _ ↦ False) :
    Triple (IsSquare n) (fillRow adjacent i left rest count : Call (Sheet Table γ τ) Nat)
      (fun _ ↦ IsSquare n) fails := by
  induction rest generalizing count with
  | nil => exact .pure fun _ hs ↦ hs
  | cons r rest ih =>
    obtain ⟨right, j⟩ := r
    obtain ⟨hj, hanswer⟩ := h (right, j) List.mem_cons_self
    have hask : Triple (IsSquare n) (Sheet.ask (adjacent left right) : Call (Sheet Table γ τ) Bool)
        (fun _ ↦ IsSquare n) fails :=
      (Triple.zoom (IsSquare n) (fun _ _ hs ↦ hs) hanswer).imp (fun _ hs ↦ hs)
        (fun _ _ hs ↦ hs.2) fun _ _ ↦ False.elim
    have hput : ∀ b, Triple (IsSquare n) (putCell i j b : Call (Sheet Table γ τ) Unit)
        (fun _ ↦ IsSquare n) fails := by
      rintro b ⟨t, counts, caller⟩ ht
      simp only [putCell, Call.zoom, Table.Square.put_eq ht hi hj]
      exact Table.Square.set ht hi
    have hcells := fun r hr ↦ h r (List.mem_cons_of_mem _ hr)
    simp only [fillRow]
    split
    · exact Triple.bind (.pure fun _ hs ↦ hs) fun b ↦ (hput b).bind fun _ ↦ ih hcells
    · exact hask.bind fun b ↦ (hput b).bind fun _ ↦ ih hcells

theorem answers_fillRows {values rest : List (α × Nat)}
    (hlt : ∀ r ∈ values, r.2 < n) (hsub : rest ⊆ values)
    (h : ∀ l ∈ values, ∀ r ∈ values, Ends (adjacent l.1 r.1) (fun _ ↦ True) fun _ ↦ False)
    (hfinish : ∀ i count, Triple (IsSquare n) (finish i count) (fun _ ↦ IsSquare n) fails) :
    Triple (IsSquare n) (fillRows adjacent finish values rest) (fun _ ↦ IsSquare n) fails := by
  induction rest with
  | nil => exact .pure fun _ hs ↦ hs
  | cons l rest ih =>
    obtain ⟨hl, hrest⟩ := List.cons_subset.mp hsub
    obtain ⟨left, i⟩ := l
    refine (answers_fillRow (hlt _ hl) fun r hr ↦ ⟨hlt r hr, h _ hl r hr⟩).bind fun count ↦ ?_
    exact (hfinish i count).bind fun _ ↦ ih hrest

end Sheet

/-- If every question is answered, the table of a relation is made, even if the same question is not
answered in the same way twice. -/
theorem adjacencyTable_answers {conflict : α → α → Call τ Bool} {values : List α}
    (h : ∀ a ∈ values, ∀ b ∈ values, Ends (conflict a b) (fun _ ↦ True) fun _ ↦ False) :
    Ends (adjacencyTable conflict values) (fun _ ↦ True) fun _ ↦ False := by
  have hplaced : ∀ {r : α × Nat}, r ∈ values.zipIdx → r.1 ∈ values ∧ r.2 < values.length := by
    intro r hr
    obtain ⟨hlt, heq⟩ := List.mem_zipIdx' hr
    exact ⟨heq ▸ List.getElem_mem hlt, hlt⟩
  have hfill : Triple (Sheet.IsSquare values.length)
      (Sheet.fill conflict values : Call (Sheet Table Unit τ) Unit)
      (fun _ ↦ Sheet.IsSquare values.length) (fun _ _ ↦ False) :=
    Sheet.answers_fillRows (fun r hr ↦ (hplaced hr).2) (List.Subset.refl _)
      (fun l hl r hr ↦ h l.1 (hplaced hl).1 r.1 (hplaced hr).1) fun _ _ ↦ .pure fun _ hs ↦ hs
  have hsheet : Ends (Call.onSheet (Table.blank values.length) () (Sheet.fill conflict values))
      (fun _ ↦ True) fun _ ↦ False :=
    Ends.onSheet (hfill.imp (fun _ hs ↦ hs) (fun _ _ _ ↦ trivial) fun _ _ he ↦ he)
      fun _ ↦ Table.square_blank _
  exact .map hsheet

/-! ## The components of a relation -/

section Relation

variable {p : α → α → Bool} {values : List α}

/-- The cells of the table of a relation lead from one place to another where the values are
related. -/
theorem reaches_tableOf {i j : Nat} :
    (tableOf p values).Reaches i j ↔ ReflTransGen (RelatedAt p values) i j := by
  have hedge : (tableOf p values).Edge = RelatedAt p values := by
    funext i j
    rw [Table.Edge, cell_tableOf, cellOf_iff]
  rw [Table.Reaches, hedge]

/-- The components of a relation on a list of values, as the places of these. -/
structure Components (p : α → α → Bool) (values : List α) (components : List (List Nat)) :
    Prop where
  ascending : ∀ c ∈ components, c.Pairwise (· < ·)
  /-- Every place is in one component, once. -/
  places : components.flatten.Perm (List.range values.length)
  /-- The components come in the order of their least places. -/
  ordered : components.Pairwise fun c d ↦
    ∀ i j, IsLeast {k | k ∈ c} i → IsLeast {k | k ∈ d} j → i < j
  /-- A component holds what chains of related values lead to from its least place, unless an earlier
  component does. -/
  reached : ∀ k c, components[k]? = some c → ∃ start, IsLeast {i | i ∈ c} start ∧
    ∀ i, i ∈ c ↔ ReflTransGen (RelatedAt p values) start i ∧ ∀ d ∈ components.take k, i ∉ d

theorem components_tableOf (p : α → α → Bool) (values : List α) :
    Components p values ((tableOf p values).components values.length) := by
  have hd := decomposed_tableOf p values
  have hsquare := square_tableOf p values
  refine ⟨hd.sorted, hd.perm_range hsquare, hd.pairwise_least hsquare, fun k c hk ↦ ?_⟩
  obtain ⟨start, hleast, hiff⟩ := hd.mem_nth_iff hk
  refine ⟨start, hleast, fun i ↦ ?_⟩
  rw [← reaches_tableOf]
  simpa using hiff i

theorem Components.lt_of_mem {components : List (List Nat)} (h : Components p values components)
    {c : List Nat} (hc : c ∈ components) : ∀ i ∈ c, i < values.length := fun _ hi ↦
  List.mem_range.mp (h.places.subset (List.mem_flatten_of_mem hc hi))

end Relation

namespace Graph

variable {values : List α} {adjacent : α → α → Call τ Bool}

/-- A graph has the different values for vertices, and a row and a column for each of them. -/
theorem build_square [BEq α] (values : List α) (adjacent : α → α → Call τ Bool) :
    Ends (Graph.build values adjacent)
      (fun g ↦ g.vertices = values.eraseDups ∧ g.adjacent = adjacent ∧ g.table.Square g.size)
      fun _ ↦ True := by
  have hfill : Preserves (Sheet.IsSquare values.eraseDups.length)
      (Sheet.fillWithCounts adjacent values.eraseDups : Call (Sheet Table (Array Nat) τ) Unit) :=
    Sheet.preserves_isSquare (fun _ _ ↦ .zoom_apart _ fun _ _ hs ↦ hs) _ _
  have hsheet : Ends
      (Call.onSheet (Table.blank values.eraseDups.length)
        (Array.replicate values.eraseDups.length 0)
        (Sheet.fillWithCounts adjacent values.eraseDups))
      (fun r ↦ r.1.Square values.eraseDups.length) fun _ ↦ True :=
    Ends.onSheet (hfill.imp (fun _ hs ↦ hs) (fun _ _ hs ↦ hs) fun _ _ _ ↦ trivial)
      fun _ ↦ Table.square_blank _
  exact hsheet.bind fun r hr ↦ .pure ⟨rfl, rfl, hr⟩

/-! ## Components -/

/-- What the components of a graph are. -/
structure Partitioned (g : Graph τ α) : Prop where
  nonempty : ∀ c ∈ g.componentIndices, c ≠ []
  ascending : ∀ c ∈ g.componentIndices, c.Pairwise (· < ·)
  /-- Every index is in one component, once. -/
  indices : g.componentIndices.flatten.Perm (List.range g.size)
  /-- The components come in the order of their least indices. -/
  ordered : g.componentIndices.Pairwise fun c d ↦
    ∀ i j, IsLeast {k | k ∈ c} i → IsLeast {k | k ∈ d} j → i < j
  /-- A component holds what its least index reaches, unless an earlier one does. -/
  reached : ∀ k c, g.componentIndices[k]? = some c → ∃ start, IsLeast {i | i ∈ c} start ∧
    ∀ i, i ∈ c ↔ g.table.Reaches start i ∧ ∀ d ∈ g.componentIndices.take k, i ∉ d
  /-- Indices are in one component if and only if a chain of related vertices joins them, if the
  relation always gives the same answer and is symmetric. -/
  joined : ∀ p : α → α → Bool,
    (∀ a ∈ g.vertices, ∀ b ∈ g.vertices, Ends (g.adjacent a b) (· = p a b) fun _ ↦ True) →
    SymmetricOn p g.vertices → ∀ i < g.size, ∀ j,
      (∃ c ∈ g.componentIndices, i ∈ c ∧ j ∈ c) ↔ ReflTransGen (RelatedAt p g.vertices) i j
  /-- As sets of vertices, the components are those at their indices. -/
  placed : List.Forall₂ (List.Forall₂ fun v i ↦ g.vertices[i]? = some v) g.components
    g.componentIndices
  /-- Every vertex is in one component, once. -/
  vertices : g.components.flatten.Perm g.vertices

/-- Nothing but the shape of its table is needed for the components of a graph to be found. -/
theorem decomposed_componentIndices {g : Graph τ α} (h : g.table.Square g.size) :
    g.table.Decomposed g.size ∅ g.componentIndices :=
  Table.decomposed_components h

/-- The cells of a graph that represents a relation lead from one index to another where the
vertices are related. -/
theorem Represents.reaches_iff {g : Graph τ α} {p : α → α → Bool} (h : g.Represents p values)
    (i j : Nat) : g.table.Reaches i j ↔ ReflTransGen (RelatedAt p values) i j := by
  rw [h.table, reaches_tableOf]

/-- The components of a graph that was built from any relation in any state. -/
theorem build_partitioned [BEq α] {s s' : τ} {g : Graph τ α}
    (h : Graph.build values adjacent s = (.ok g, s')) : g.Partitioned := by
  have hbuilt {post : Graph τ α → Prop} {fails : Failure → Prop}
      (hends : Ends (Graph.build values adjacent) post fails) : post g := by
    have hs := hends s trivial
    rwa [h] at hs
  obtain ⟨hvertices, hadjacent, hsquare⟩ := hbuilt (build_square values adjacent)
  have hd := decomposed_componentIndices hsquare
  refine ⟨fun c hc ↦ ?_, hd.sorted, hd.perm_range hsquare, hd.pairwise_least hsquare,
    fun k c hk ↦ ?_, fun p hp hsymm i hi j ↦ ?_, ?_, hd.flatten_valuesAt hsquare⟩
  · obtain ⟨i, hi⟩ := hd.exists_mem c hc
    exact List.ne_nil_of_mem hi
  · obtain ⟨start, hleast, hiff⟩ := hd.mem_nth_iff hk
    exact ⟨start, hleast, fun i ↦ by simpa using hiff i⟩
  · have hg : g.Represents p g.vertices := by
      rw [hvertices, hadjacent] at hp
      exact hvertices ▸ (hbuilt (build_ends hp)).2
    have : Std.Symm g.table.Edge := hg.table ▸ hsymm.edge
    rw [hd.exists_mem_iff_reaches hsquare hi, hg.reaches_iff]
  · refine List.forall₂_map_left_iff.mpr (List.forall₂_same.mpr fun c hc ↦ ?_)
    exact forall₂_valuesAt fun i hi ↦ hd.lt_of_mem hsquare hc hi

/-! ## A sample graph -/

namespace Sample

/-- A relation that need not hold the other way round, and that counts how often it is asked. -/
def leadsTo (a b : Nat) : Call Nat Bool :=
  fun asked ↦ (.ok ([(0, 3), (3, 1), (2, 1), (4, 2)].contains (a, b)), asked + 1)

/-- The graph of that relation on five numbers. -/
def directed : Graph Nat Nat where
  vertices := [0, 1, 2, 3, 4]
  adjacent := leadsTo
  table := #[#[false, false, false, true, false], #[false, false, false, false, false],
    #[false, true, false, false, false], #[false, true, false, false, false],
    #[false, false, true, false, false]]
  counts := #[1, 0, 1, 1, 1]

end Sample

theorem build_partitioned_sample :
    Graph.build [0, 1, 2, 3, 0, 4] Sample.leadsTo 0 = (.ok Sample.directed, 20) ∧
      Sample.directed.Partitioned := by
  have hbuild : Graph.build [0, 1, 2, 3, 0, 4] Sample.leadsTo 0 = (.ok Sample.directed, 20) := rfl
  exact ⟨hbuild, build_partitioned hbuild⟩

/-- The second component leads to the first, and the third to the second. -/
example : Sample.directed.componentIndices = [[0, 1, 3], [2], [4]] := by cbv

end Graph

end Loadout
