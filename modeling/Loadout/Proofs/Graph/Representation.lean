import Loadout.Proofs.Graph.Partition
import Mathlib.Data.Set.Card

/-!
# What a graph says of its relation

A graph keeps a table of its relation and, apart from it, the number of neighbours in each row.
Whatever is read from a graph that represents a relation can be said by the relation alone: which
places are neighbours, `areNeighbors_iff`, which values are the neighbours of one, `neighborsAt_eq`,
how many these are, `countAt_eq`, and how many pairs of neighbours there are, `pairCount_eq`.
-/

namespace Loadout

variable {τ α : Type} {p : α → α → Bool} {values : List α} {i j : Nat}

/-- The values at two different places of a list are related. -/
def RelatedAt (p : α → α → Bool) (values : List α) (i j : Nat) : Prop :=
  i ≠ j ∧ ∃ a b, values[i]? = some a ∧ values[j]? = some b ∧ p a b = true

theorem cellOf_iff : cellOf p values i j = true ↔ RelatedAt p values i j := by
  rw [cellOf, RelatedAt, Bool.and_eq_true, bne_iff_ne]
  refine and_congr_right fun _ ↦ ?_
  cases values[i]? with
  | none => simp
  | some a => cases values[j]? <;> simp

theorem RelatedAt.lt_left (h : RelatedAt p values i j) : i < values.length := by
  obtain ⟨-, a, -, hi, -⟩ := h
  exact (List.getElem?_eq_some_iff.mp hi).1

theorem RelatedAt.lt_right (h : RelatedAt p values i j) : j < values.length := by
  obtain ⟨-, -, b, -, hj, -⟩ := h
  exact (List.getElem?_eq_some_iff.mp hj).1

theorem cell_tableOf (p : α → α → Bool) (values : List α) (i j : Nat) :
    (tableOf p values).cell i j = cellOf p values i j := by
  refine Bool.eq_iff_iff.mpr ?_
  rw [tableOf, Table.cell_ofFn, Bool.and_eq_true, Bool.and_eq_true, cellOf_iff]
  simp only [decide_eq_true_eq]
  constructor
  · rintro ⟨-, h⟩
    exact h
  · intro h
    exact ⟨⟨h.lt_left, h.lt_right⟩, h⟩

/-- The places of the values that the one at a place is related to, in ascending order. -/
def placesRelated (p : α → α → Bool) (values : List α) (i : Nat) : List Nat :=
  (List.range values.length).filter (cellOf p values i)

theorem mem_placesRelated : j ∈ placesRelated p values i ↔ RelatedAt p values i j := by
  rw [placesRelated, List.mem_filter, List.mem_range, cellOf_iff]
  exact and_iff_right_of_imp RelatedAt.lt_right

theorem pairwise_placesRelated (p : α → α → Bool) (values : List α) (i : Nat) :
    (placesRelated p values i).Pairwise (· < ·) :=
  List.pairwise_lt_range.sublist List.filter_sublist

theorem length_placesRelated (p : α → α → Bool) (values : List α) (i : Nat) :
    (placesRelated p values i).length = degreeOf p values i :=
  List.countP_eq_length_filter.symm

theorem columns_tableOf (hi : i < values.length) :
    (tableOf p values).columns i = placesRelated p values i := by
  rw [Table.columns, (square_tableOf p values).width i hi, placesRelated]
  exact List.filter_congr fun j _ ↦ cell_tableOf p values i j

/-- The values at places of a list are found at these places. -/
theorem forall₂_valuesAt {places : List Nat} (hlt : ∀ k ∈ places, k < values.length) :
    List.Forall₂ (fun a k ↦ values[k]? = some a) (valuesAt values places) places := by
  induction places with
  | nil => exact .nil
  | cons k places ih =>
    have hk := List.getElem?_eq_getElem (hlt k List.mem_cons_self)
    rw [valuesAt, List.filterMap_cons_some hk]
    exact .cons hk (ih fun j hj ↦ hlt j (List.mem_cons_of_mem _ hj))

theorem forall₂_placesRelated (p : α → α → Bool) (values : List α) (i : Nat) :
    List.Forall₂ (fun a k ↦ values[k]? = some a) (valuesAt values (placesRelated p values i))
      (placesRelated p values i) :=
  forall₂_valuesAt fun _ hk ↦ (mem_placesRelated.mp hk).lt_right

/-- All pairs of places that are related. -/
def relatedPairs (p : α → α → Bool) (values : List α) : List (Nat × Nat) :=
  (List.range values.length).flatMap fun i ↦ (placesRelated p values i).map (Prod.mk i)

theorem mem_relatedPairs {e : Nat × Nat} :
    e ∈ relatedPairs p values ↔ RelatedAt p values e.1 e.2 := by
  obtain ⟨i, j⟩ := e
  simp only [relatedPairs, List.mem_flatMap, List.mem_map, List.mem_range, mem_placesRelated]
  constructor
  · rintro ⟨_, _, _, h, ⟨⟩⟩
    exact h
  · intro h
    exact ⟨i, h.lt_left, j, h, rfl⟩

theorem nodup_relatedPairs (p : α → α → Bool) (values : List α) : (relatedPairs p values).Nodup := by
  refine List.nodup_flatMap.mpr ⟨fun i _ ↦ ?_, ?_⟩
  · have hnodup : (placesRelated p values i).Nodup :=
      (pairwise_placesRelated p values i).imp Nat.ne_of_lt
    exact hnodup.map fun _ _ h ↦ (Prod.mk.inj h).2
  · refine List.nodup_range.imp fun {i k} hik e hei hek ↦ ?_
    obtain ⟨_, -, rfl⟩ := List.mem_map.mp hei
    obtain ⟨_, -, heq⟩ := List.mem_map.mp hek
    exact hik (Prod.mk.inj heq).1.symm

theorem ncard_related (p : α → α → Bool) (values : List α) :
    {e : Nat × Nat | RelatedAt p values e.1 e.2}.ncard = (relatedPairs p values).length := by
  have hset : {e : Nat × Nat | RelatedAt p values e.1 e.2} = (relatedPairs p values).toFinset := by
    ext e
    simp [mem_relatedPairs]
  rw [hset, Set.ncard_coe_finset, List.toFinset_card_of_nodup (nodup_relatedPairs p values)]

namespace Graph.Represents

variable {g : Graph τ α}

theorem size_eq (h : g.Represents p values) : g.size = values.length :=
  congrArg List.length h.vertices

theorem countAt_eq (h : g.Represents p values) (hi : i < values.length) :
    g.countAt i = (placesRelated p values i).length := by
  rw [countAt, length_placesRelated, Array.getD_eq_getD_getElem?, ← Array.getElem?_toList, h.counts]
  simp [hi]

theorem areNeighbors_iff (h : g.Represents p values) :
    g.areNeighbors i j = true ↔ RelatedAt p values i j := by
  rw [areNeighbors, h.table, cell_tableOf, Bool.and_eq_true, bne_iff_ne, cellOf_iff]
  exact and_iff_right_of_imp fun h ↦ h.1

theorem neighborsAt_eq (h : g.Represents p values) (hi : i < values.length) :
    g.neighborsAt i = valuesAt values (placesRelated p values i) := by
  rw [neighborsAt, verticesAt, h.table, columns_tableOf hi, h.vertices, valuesAt]

theorem rows_eq (h : g.Represents p values) :
    g.rows = (List.range values.length).map fun i ↦
      (List.range values.length).map (cellOf p values i) := by
  rw [rows, h.table, tableOf, Table.rows_ofFn]

theorem pairCount_eq (h : g.Represents p values) :
    g.pairCount = {e : Nat × Nat | RelatedAt p values e.1 e.2}.ncard := by
  rw [pairCount, ← Array.foldl_toList, h.counts, ← List.sum_eq_foldl_nat, ncard_related,
    relatedPairs, List.length_flatMap]
  simp only [List.length_map, length_placesRelated]

end Graph.Represents

end Loadout
