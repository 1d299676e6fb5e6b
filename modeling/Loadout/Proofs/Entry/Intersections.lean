import Loadout.Proofs.Entry.Queries
import Loadout.Proofs.Graph.Decomposition
import Loadout.Proofs.Value.Equality

/-!
# Graphs of intersections

Two collections intersect if they share an element, however they keep their elements and whichever
of them is asked.  So two vertices of an intersection graph are neighbours if their collections
share an element, and they are in one component if a chain of collections leads from one to the
other, each of which shares an element with the next, `buildIntersection_intersects`.

To be shared is to be the same for a set.  For most elements this is to be equal,
`shares_iff_equal`, but an undefined number, which is equal to nothing, is shared with itself,
`buildIntersection_undefined`.
-/

namespace Loadout

open Relation (ReflTransGen)

variable {τ : Type} {values xs ys : List Value} {left right a : Value} {i j : Nat}
variable {elementsOf : Value → List Value}

namespace Value

/-- Some element of one list is the same as some element of another. -/
def Shares (xs ys : List Value) : Prop :=
  ∃ x ∈ xs, ∃ y ∈ ys, (x == y) = true

/-- Where there are neither machine numbers nor undefined ones, elements are shared if and only if
they are equal. -/
theorem shares_iff_equal (hxs : ∀ x ∈ xs, Ordinary x ∧ ∀ i, x ≠ .undefined i)
    (hys : ∀ y ∈ ys, Ordinary y) :
    Shares xs ys ↔ ∃ x ∈ xs, ∃ y ∈ ys, x.equal y = .ok true := by
  have hequal : ∀ x ∈ xs, ∀ y ∈ ys, (x == y) = true ↔ x.equal y = .ok true := by
    intro x hx y hy
    rw [(hxs x hx).1.equal_eq (hys y hy) (hxs x hx).2, Except.ok.injEq]
    rfl
  constructor
  · rintro ⟨x, hx, y, hy, hxy⟩
    exact ⟨x, hx, y, hy, (hequal x hx y hy).mp hxy⟩
  · rintro ⟨x, hx, y, hy, hxy⟩
    exact ⟨x, hx, y, hy, (hequal x hx y hy).mpr hxy⟩

/-- What is answered when it is asked whether two collections of the listed elements intersect. -/
structure Intersecting (left right : Value) (xs ys : List Value) : Prop where
  answered : Call.Ends (left.intersects right) (fun b ↦ b = true ↔ Shares xs ys) fun _ ↦ False
  /-- The other collection answers the same. -/
  swapped : Call.Ends (right.intersects left) (fun b ↦ b = true ↔ Shares xs ys) fun _ ↦ False
  equal : (∀ x ∈ xs, Ordinary x ∧ ∀ i, x ≠ .undefined i) → (∀ y ∈ ys, Ordinary y) →
    (Shares xs ys ↔ ∃ x ∈ xs, ∃ y ∈ ys, x.equal y = .ok true)

theorem Gathers.intersecting (hleft : Gathers left xs) (hright : Gathers right ys) :
    Intersecting left right xs ys where
  answered := (hleft.intersects_ends hright).mono fun _ hb ↦ hb ▸ overlap_iff
  swapped := (hright.intersects_ends hleft).mono fun _ hb ↦ by
    rw [hb, overlap_comm hright.comparable hleft.comparable]
    exact overlap_iff
  equal := shares_iff_equal

end Value

open Value (Shares Gathers overlap)

/-! ## Graphs that represent intersections -/

/-- Different places, and the collections of the values there share an element. -/
def SharedAt (elementsOf : Value → List Value) (values : List Value) (i j : Nat) : Prop :=
  i ≠ j ∧ ∃ a b, values[i]? = some a ∧ values[j]? = some b ∧ Shares (elementsOf a) (elementsOf b)

/-- Whether the collections of two values overlap. -/
def overlapping (elementsOf : Value → List Value) (a b : Value) : Bool :=
  overlap (elementsOf a) (elementsOf b)

theorem relatedAt_overlapping :
    RelatedAt (overlapping elementsOf) values = SharedAt elementsOf values := by
  funext i j
  simp only [RelatedAt, SharedAt, overlapping, Value.overlap_iff, Shares]

theorem SharedAt.elements_ne_nil (h : SharedAt elementsOf values i j) (hi : values[i]? = some a) :
    elementsOf a ≠ [] := by
  obtain ⟨-, b, -, hb, -, x, hx, -⟩ := h
  cases hi.symm.trans hb
  exact List.ne_nil_of_mem hx

/-- What a graph says if its vertices are neighbours when their collections share an element. -/
structure IntersectionGraph (elementsOf : Value → List Value) (values : List Value)
    (g : Graph τ Value) : Prop where
  vertices : g.vertices = values
  square : g.table.Square values.length
  cell : ∀ i j, g.table.cell i j = true ↔ SharedAt elementsOf values i j
  symmetric : ∀ i j, g.table.cell i j = g.table.cell j i
  /-- A vertex whose collection is empty has no neighbours, and is a component on its own. -/
  isolated : ∀ i a, values[i]? = some a → elementsOf a = [] →
    (∀ j, g.table.cell i j = false ∧ g.table.cell j i = false) ∧ [i] ∈ g.componentIndices
  /-- Two vertices are in one component if and only if a chain of collections joins them. -/
  joined : ∀ i < values.length, ∀ j, (∃ c ∈ g.componentIndices, i ∈ c ∧ j ∈ c) ↔
    ReflTransGen (SharedAt elementsOf values) i j
  /-- As sets of vertices, the components are those at their indices. -/
  placed : List.Forall₂ (List.Forall₂ fun a i ↦ values[i]? = some a) g.components
    g.componentIndices

namespace Graph.Represents

variable {g : Graph τ Value}

theorem sharedAt_iff (h : g.Represents (overlapping elementsOf) values) :
    g.table.cell i j = true ↔ SharedAt elementsOf values i j := by
  rw [h.table, cell_tableOf, cellOf_iff, relatedAt_overlapping]

theorem cell_comm (hcomparable : ∀ a ∈ values, ∀ x ∈ elementsOf a, x.Comparable)
    (h : g.Represents (overlapping elementsOf) values) :
    g.table.cell i j = g.table.cell j i := by
  have hswap : ∀ i j, SharedAt elementsOf values i j → SharedAt elementsOf values j i := by
    rintro i j ⟨hij, a, b, ha, hb, x, hx, y, hy, hxy⟩
    have hcomparable := hcomparable a (List.mem_of_getElem? ha) x hx
    exact ⟨hij.symm, b, a, hb, ha, y, hy, x, hx, hcomparable.same_symm hxy⟩
  rw [Bool.eq_iff_iff, h.sharedAt_iff, h.sharedAt_iff]
  exact ⟨hswap i j, hswap j i⟩

theorem intersectionGraph (hcomparable : ∀ a ∈ values, ∀ x ∈ elementsOf a, x.Comparable)
    (h : g.Represents (overlapping elementsOf) values) :
    IntersectionGraph elementsOf values g := by
  have hcomm : ∀ i j, g.table.cell i j = g.table.cell j i := fun i j ↦ cell_comm hcomparable h
  have hsquare : g.table.Square values.length := h.table ▸ square_tableOf _ _
  have hdecomposed : g.table.Decomposed values.length ∅ g.componentIndices :=
    h.size_eq ▸ decomposed_componentIndices (h.size_eq ▸ hsquare)
  have : Std.Symm g.table.Edge := ⟨fun i j hij ↦ (hcomm i j).symm.trans hij⟩
  have hjoined : ∀ i < values.length, ∀ j, (∃ c ∈ g.componentIndices, i ∈ c ∧ j ∈ c) ↔
      ReflTransGen (SharedAt elementsOf values) i j := by
    intro i hi j
    rw [hdecomposed.exists_mem_iff_reaches hsquare hi, h.reaches_iff, relatedAt_overlapping]
  refine ⟨h.vertices, hsquare, fun i j ↦ h.sharedAt_iff, hcomm, fun i a hi hnil ↦ ?_, hjoined, ?_⟩
  · have hnone : ∀ j, ¬ SharedAt elementsOf values i j := fun j hj ↦ hj.elements_ne_nil hi hnil
    refine ⟨fun j ↦ ?_, ?_⟩
    · have hij : g.table.cell i j = false := by
        rw [← Bool.not_eq_true, h.sharedAt_iff]
        exact hnone j
      exact ⟨hij, hcomm i j ▸ hij⟩
    · have hlt := (List.getElem?_eq_some_iff.mp hi).1
      obtain ⟨c, hc, hic, -⟩ := (hjoined i hlt i).mpr .refl
      have hall : ∀ j ∈ c, j = i := by
        intro j hj
        have hchain := (hjoined i hlt j).mp ⟨c, hc, hic, hj⟩
        rcases ReflTransGen.cases_head hchain with rfl | ⟨k, hik, -⟩
        · rfl
        · exact absurd hik (hnone k)
      have hnodup : c.Nodup := (hdecomposed.sorted c hc).imp Nat.ne_of_lt
      rwa [← List.perm_singleton.mp ((List.perm_ext_iff_of_nodup hnodup (List.nodup_singleton i)).mpr
        fun j ↦ ⟨fun hj ↦ List.mem_singleton.mpr (hall j hj),
          fun hj ↦ List.mem_singleton.mp hj ▸ hic⟩)]
  · refine List.forall₂_map_left_iff.mpr (List.forall₂_same.mpr fun c hc ↦ ?_)
    rw [verticesAt, h.vertices]
    exact forall₂_valuesAt fun i hi ↦ hdecomposed.lt_of_mem hsquare hc hi

end Graph.Represents

namespace Entry

/-! ## Building them -/

/-- A transform that may be left out. -/
def suppliedTransform : Option ValueFunction → Supplied ValueFunction
  | none => .value .nothing
  | some f => .function f

/-- The collection of a vertex gathers the listed elements: the vertex itself, or what a function
makes of it. -/
def Collecting (transform : Option ValueFunction) (a : Value) (xs : List Value) : Prop :=
  match transform with
  | none => Gathers a xs
  | some f => ∃ c, Call.Ends (f a) (· = c) (fun _ ↦ False) ∧ Gathers c xs

theorem Collecting.comparable {transform : Option ValueFunction}
    (h : Collecting transform a xs) : ∀ x ∈ xs, x.Comparable := by
  cases transform with
  | none => exact Gathers.comparable h
  | some f =>
    obtain ⟨c, -, hc⟩ := h
    exact hc.comparable

theorem transformedIntersect_ends {f : ValueFunction} {b : Value}
    (ha : Collecting (some f) a xs) (hb : Collecting (some f) b ys) :
    Call.Ends (ValueRelation.holds (transformedIntersect f) a b) (· = overlap xs ys)
      fun _ ↦ False := by
  obtain ⟨c, hfa, hc⟩ := ha
  obtain ⟨d, hfb, hd⟩ := hb
  refine .map (hfa.bind fun c' hc' ↦ hfb.bind fun d' hd' ↦ ?_)
  subst hc' hd'
  refine (hc.intersects_ends hd).bind fun answer hanswer ↦ .pure ?_
  exact hanswer

/-- Collections intersect if they share an element, whichever of them is asked, and the graph of their
intersections is built and says so. -/
theorem buildIntersection_intersects {vertices : Value} {transform : Option ValueFunction}
    {xs : List Value} {elementsOf : Value → List Value}
    (hcollection : requireCollection "vertices" vertices = .ok vertices)
    (hhashable : ∀ a ∈ xs, a.changeable? = none)
    (hcollecting : ∀ a ∈ xs, Collecting transform a (elementsOf a)) :
    (∀ left right ys zs, Gathers left ys → Gathers right zs →
      Value.Intersecting left right ys zs) ∧
    Call.Triple (fun w ↦ (vertices.elements w.caller).1 = .ok xs)
      (buildIntersection vertices (suppliedTransform transform))
      (fun g _ ↦ IntersectionGraph elementsOf xs.eraseDups g) fun _ _ ↦ False := by
  refine ⟨fun left right ys zs hleft hright ↦ hleft.intersecting hright, ?_⟩
  have hsub := (eraseDups_sublist xs).subset
  have hdistinct := (distinct_eraseDups xs).eraseDups_eq
  have hmade {r : ValueRelation} (hr : ∀ a ∈ xs, ∀ b ∈ xs,
      Call.Ends (r.holds a b) (· = overlapping elementsOf a b) fun _ ↦ False) :
      Call.Ends (Graph.build xs.eraseDups r.holds) (IntersectionGraph elementsOf xs.eraseDups)
        fun _ ↦ False := by
    have hr : ∀ a ∈ xs.eraseDups.eraseDups, ∀ b ∈ xs.eraseDups.eraseDups,
        Call.Ends (r.holds a b) (· = overlapping elementsOf a b) fun _ ↦ False := by
      rw [hdistinct]
      exact fun a ha b hb ↦ hr a (hsub ha) b (hsub hb)
    refine (Graph.build_ends hr).mono fun g hg ↦ ?_
    rw [hdistinct] at hg
    exact hg.2.intersectionGraph fun a ha ↦ (hcollecting a (hsub ha)).comparable
  cases transform with
  | none =>
    refine build_triple hcollection hhashable <| hmade fun a ha b hb ↦ .map (.map ?_)
    exact Gathers.intersects_ends (hcollecting a ha) (hcollecting b hb)
  | some f =>
    exact build_triple hcollection hhashable <| hmade fun a ha b hb ↦
      transformedIntersect_ends (hcollecting a ha) (hcollecting b hb)

/-! ## Sample collections -/

namespace Sample

/-- The elements of a collection for each of some numbers. -/
def elementsAt : Value → List Value
  | .integer 1 => [.integer 1, .text "a", .integer 1]
  | .integer 2 => [.text "b", .truth true]
  | .integer 3 => [.real 1.0, .tuple [.integer 2]]
  | .integer 4 => [.text "b"]
  | _ => []

/-- A collection of these elements, of another kind for every number. -/
def collectionAt : Value → Value
  | .integer 1 => .list (elementsAt (.integer 1))
  | .integer 2 => .tuple (elementsAt (.integer 2))
  | .integer 3 => .frozen (elementsAt (.integer 3))
  | .integer 4 => .mapping ((elementsAt (.integer 4)).map fun x ↦ (x, .nothing))
  | v => .set (elementsAt v)

theorem gathers_collectionAt (v : Value) : Gathers (collectionAt v) (elementsAt v) := by
  have hreal : Value.Comparable (.real 1.0) := .number rfl (by decide +kernel)
  have hpair : Value.Comparable (.tuple [.integer 2]) := .tuple (by simpa using .integer 2)
  have helements : (∀ x ∈ elementsAt v, x.Comparable) ∧ ∀ x ∈ elementsAt v, x.beElement = .ok () := by
    unfold elementsAt
    split
    · simpa using ⟨⟨.integer 1, .text "a", .integer 1⟩, rfl, rfl, rfl⟩
    · simpa using ⟨⟨.text "b", .truth true⟩, rfl, rfl⟩
    · simpa using ⟨⟨hreal, hpair⟩, rfl, rfl⟩
    · simpa using ⟨.text "b", rfl⟩
    · simp
  have hread : (collectionAt v).elements? = .ok (elementsAt v) := by
    unfold collectionAt
    split <;> rfl
  exact ⟨hread, helements.1, helements.2⟩

end Sample

theorem buildIntersection_intersects_sample :
    (∀ left right ys zs, Gathers left ys → Gathers right zs →
      Value.Intersecting left right ys zs) ∧
    Call.Triple
      (fun w ↦ ((Value.list ((List.range 5).map fun n ↦ .integer (n + 1))).elements w.caller).1 =
        .ok ((List.range 5).map fun n ↦ .integer (n + 1)))
      (buildIntersection (.list ((List.range 5).map fun n ↦ .integer (n + 1)))
        (suppliedTransform (some fun v ↦ pure (Sample.collectionAt v))))
      (fun g _ ↦ IntersectionGraph Sample.elementsAt
        ((List.range 5).map fun n ↦ Value.integer (n + 1)).eraseDups g)
      fun _ _ ↦ False :=
  buildIntersection_intersects rfl (by simp [Value.changeable?]) fun a _ ↦
    ⟨_, .pure rfl, Sample.gathers_collectionAt a⟩

/-- An undefined number is not equal to itself, but collections share it. -/
theorem buildIntersection_undefined :
    ((do
      let g ← buildIntersection (.list [.integer 1, .integer 2])
        (.function fun _ ↦ pure (.frozen [.undefined 0]))
      return g.table.cell 0 1 : Run Caller Bool) ⟨{}, {}⟩).1 = .ok true ∧
      (Value.undefined 0).equal (.undefined 0) = .ok false :=
  ⟨by with_unfolding_all rfl, by with_unfolding_all rfl⟩

end Entry

end Loadout
