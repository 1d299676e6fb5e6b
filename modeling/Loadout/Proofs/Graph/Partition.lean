import Loadout.Proofs.Graph.DepthFirst
import Mathlib.Data.List.Sort

/-!
# The components of a list of values

The components of a relation on a list of values, as lists of values.  Each of them keeps the order
of the list, and together they hold every place of the list once, `flatten_componentsOf`.  If the
relation is symmetric on different places, then no two components are related, and a component is
all that is connected with any of its values.
-/

namespace Loadout

open Relation

variable {α : Type} {p : α → α → Bool} {values : List α}

/-- The values at some places of a list. -/
def valuesAt (values : List α) (places : List Nat) : List α :=
  places.filterMap (values[·]?)

theorem valuesAt_range (values : List α) : valuesAt values (List.range values.length) = values := by
  induction values with
  | nil => rfl
  | cons a values ih =>
    rw [valuesAt, List.length_cons, List.range_succ_eq_map, List.filterMap_cons]
    simpa [List.filterMap_map, Function.comp_def, valuesAt] using ih

theorem mem_valuesAt {places : List Nat} {a : α} :
    a ∈ valuesAt values places ↔ ∃ i ∈ places, values[i]? = some a :=
  List.mem_filterMap

/-- Ascending places of a list make a part of it. -/
theorem valuesAt_sublist {places : List Nat} (hsorted : places.Pairwise (· < ·))
    (hlt : ∀ i ∈ places, i < values.length) : (valuesAt values places).Sublist values := by
  have hsub : places.Subperm (List.range values.length) :=
    List.subperm_of_subset (hsorted.imp Nat.ne_of_lt) fun i hi ↦ List.mem_range.mpr (hlt i hi)
  have hrange : places.Sublist (List.range values.length) :=
    List.sublist_of_subperm_of_pairwise (r := (· < ·)) hsub hsorted List.pairwise_lt_range
  have h := hrange.filterMap (values[·]?)
  rwa [← valuesAt, ← valuesAt, valuesAt_range] at h

/-- If parts hold every place of a list once, they hold the value at every place once. -/
theorem flatten_valuesAt {cs : List (List Nat)}
    (h : cs.flatten.Perm (List.range values.length)) :
    (cs.map (valuesAt values)).flatten.Perm values := by
  have hperm := h.filterMap (values[·]?)
  rw [List.filterMap_flatten] at hperm
  exact hperm.trans (List.Perm.of_eq (valuesAt_range values))

/-- The components hold the value at every place of a list once. -/
theorem Table.Decomposed.flatten_valuesAt {t : Table} {cs : List (List Nat)}
    (h : t.Decomposed values.length ∅ cs) (ht : t.Square values.length) :
    (cs.map (valuesAt values)).flatten.Perm values :=
  Loadout.flatten_valuesAt (h.perm_range ht)

/-- The components of a relation on a list of values. -/
def componentsOf (p : α → α → Bool) (values : List α) : List (List α) :=
  ((tableOf p values).components values.length).map (valuesAt values)

theorem Graph.components_eq {τ : Type} {g : Graph τ α} (hv : g.vertices = values)
    (ht : g.table = tableOf p values) : g.components = componentsOf p values := by
  rw [Graph.components, Graph.componentIndices, Graph.size, hv, ht, componentsOf]
  exact List.map_congr_left fun c _ ↦ by rw [Graph.verticesAt, hv, valuesAt]

theorem square_tableOf (p : α → α → Bool) (values : List α) :
    (tableOf p values).Square values.length :=
  Table.square_ofFn _ _

theorem decomposed_tableOf (p : α → α → Bool) (values : List α) :
    (tableOf p values).Decomposed values.length ∅ ((tableOf p values).components values.length) :=
  Table.decomposed_components (square_tableOf p values)

theorem edge_tableOf {i j : Nat} {a b : α} (hi : values[i]? = some a) (hj : values[j]? = some b) :
    (tableOf p values).Edge i j ↔ i ≠ j ∧ p a b = true := by
  obtain ⟨hi', rfl⟩ := List.getElem?_eq_some_iff.mp hi
  obtain ⟨hj', rfl⟩ := List.getElem?_eq_some_iff.mp hj
  simp [Table.Edge, tableOf, Table.cell_ofFn, cellOf, hi', hj']

/-- The components hold every place of the list once. -/
theorem flatten_componentsOf (p : α → α → Bool) (values : List α) :
    (componentsOf p values).flatten.Perm values :=
  (decomposed_tableOf p values).flatten_valuesAt (square_tableOf p values)

theorem sublist_of_mem_componentsOf {c : List α} (hc : c ∈ componentsOf p values) :
    c.Sublist values := by
  obtain ⟨places, hp, rfl⟩ := List.mem_map.mp hc
  have h := decomposed_tableOf p values
  exact valuesAt_sublist (h.sorted places hp) fun i hi ↦ h.lt_of_mem (square_tableOf p values) hp hi

theorem ne_nil_of_mem_componentsOf {c : List α} (hc : c ∈ componentsOf p values) : c ≠ [] := by
  obtain ⟨places, hp, rfl⟩ := List.mem_map.mp hc
  have h := decomposed_tableOf p values
  obtain ⟨i, hi⟩ := h.exists_mem places hp
  have hlt := h.lt_of_mem (square_tableOf p values) hp hi
  exact List.ne_nil_of_mem (mem_valuesAt.mpr ⟨i, hi, List.getElem?_eq_getElem hlt⟩)

/-! ## Symmetric relations -/

/-- A relation that is symmetric on the values at different places of a list. -/
def SymmetricOn (p : α → α → Bool) (values : List α) : Prop :=
  values.Pairwise fun a b ↦ p a b = p b a

theorem SymmetricOn.sublist {xs : List α} (h : SymmetricOn p values) (hs : xs.Sublist values) :
    SymmetricOn p xs :=
  List.Pairwise.sublist hs h

theorem SymmetricOn.getElem? (h : SymmetricOn p values) {i j : Nat} {a b : α} (hij : i ≠ j)
    (hi : values[i]? = some a) (hj : values[j]? = some b) : p a b = p b a := by
  obtain ⟨hi', rfl⟩ := List.getElem?_eq_some_iff.mp hi
  obtain ⟨hj', rfl⟩ := List.getElem?_eq_some_iff.mp hj
  rcases Nat.lt_or_gt_of_ne hij with hlt | hlt
  · exact List.pairwise_iff_getElem.mp h i j hi' hj' hlt
  · exact (List.pairwise_iff_getElem.mp h j i hj' hi' hlt).symm

theorem SymmetricOn.edge (h : SymmetricOn p values) : Std.Symm (tableOf p values).Edge where
  symm i j he := by
    have hlt : i < values.length ∧ j < values.length := by
      simp only [Table.Edge, tableOf, Table.cell_ofFn, Bool.and_eq_true, decide_eq_true_eq] at he
      exact he.1
    have hi := List.getElem?_eq_getElem hlt.1
    have hj := List.getElem?_eq_getElem hlt.2
    rw [edge_tableOf hi hj] at he
    rw [edge_tableOf hj hi, ← h.getElem? he.1 hi hj]
    exact ⟨he.1.symm, he.2⟩

/-- Values of different components are not related. -/
theorem SymmetricOn.pairwise_componentsOf (h : SymmetricOn p values) :
    (componentsOf p values).Pairwise fun c d ↦ ∀ a ∈ c, ∀ b ∈ d, p a b = false ∧ p b a = false := by
  have hd := decomposed_tableOf p values
  have hapart := hd.pairwise_not_edge (square_tableOf p values)
  have hdisjoint := (List.nodup_flatten.mp (hd.nodup_flatten (square_tableOf p values))).2
  refine List.pairwise_map.mpr ((hapart.and hdisjoint).imp fun {c d} hcd a ha b hb ↦ ?_)
  obtain ⟨i, hi, hia⟩ := mem_valuesAt.mp ha
  obtain ⟨j, hj, hjb⟩ := mem_valuesAt.mp hb
  have hij : i ≠ j := fun heq ↦ hcd.2 hi (heq ▸ hj)
  have hnot : p a b = false := by
    by_contra hp
    exact hcd.1 i hi j hj ((edge_tableOf hia hjb).mpr ⟨hij, by simpa using hp⟩)
  exact ⟨hnot, h.getElem? hij hia hjb ▸ hnot⟩

/-- Two different values of a list that are related. -/
def Joined (p : α → α → Bool) (values : List α) (a b : α) : Prop :=
  a ∈ values ∧ b ∈ values ∧ a ≠ b ∧ p a b = true

/-- All that is connected with a value of a list by a chain of related values. -/
def componentOf (p : α → α → Bool) (values : List α) (a : α) : Set α :=
  {b | ReflTransGen (Joined p values) a b}

theorem mem_componentOf_of_reaches (hnodup : values.Nodup) {i j : Nat} {a b : α}
    (hi : values[i]? = some a) (hj : values[j]? = some b) (hr : (tableOf p values).Reaches i j) :
    b ∈ componentOf p values a := by
  induction hr generalizing b with
  | refl =>
    rw [hi] at hj
    obtain rfl := Option.some.inj hj
    exact .refl
  | @tail k j hk he ih =>
    have hlt := (square_tableOf p values).lt_of_reaches (List.getElem?_eq_some_iff.mp hi).1 hk
    have hvk := List.getElem?_eq_getElem hlt
    obtain ⟨hne, hp⟩ := (edge_tableOf hvk hj).mp he
    refine (ih hvk).tail ⟨List.mem_of_getElem? hvk, List.mem_of_getElem? hj, fun heq ↦ ?_, hp⟩
    exact hne (hnodup.getElem_inj_iff.mp (heq.trans (List.getElem?_eq_some_iff.mp hj).2.symm))

theorem reaches_of_mem_componentOf {i : Nat} {a b : α} (hi : values[i]? = some a)
    (h : b ∈ componentOf p values a) :
    ∃ j, values[j]? = some b ∧ (tableOf p values).Reaches i j := by
  induction h with
  | refl => exact ⟨i, hi, .refl⟩
  | @tail b c _ hbc ih =>
    obtain ⟨j, hj, hr⟩ := ih
    obtain ⟨-, hc, hne, hp⟩ := hbc
    obtain ⟨k, hk⟩ := List.mem_iff_getElem?.mp hc
    refine ⟨k, hk, hr.tail ((edge_tableOf hj hk).mpr ⟨fun heq ↦ hne ?_, hp⟩)⟩
    exact Option.some.inj (hj.symm.trans (heq ▸ hk))

/-- A component is all that is connected with any of its values. -/
theorem SymmetricOn.mem_component_iff (h : SymmetricOn p values) (hnodup : values.Nodup)
    {c : List α} (hc : c ∈ componentsOf p values) {a : α} (ha : a ∈ c) (b : α) :
    b ∈ c ↔ b ∈ componentOf p values a := by
  have := h.edge
  obtain ⟨places, hplaces, rfl⟩ := List.mem_map.mp hc
  obtain ⟨i, hi, hia⟩ := mem_valuesAt.mp ha
  have hiff := (decomposed_tableOf p values).mem_iff_reaches (fun _ h ↦ h.elim) places hplaces i hi
  constructor
  · intro hb
    obtain ⟨j, hj, hjb⟩ := mem_valuesAt.mp hb
    exact mem_componentOf_of_reaches hnodup hia hjb ((hiff j).mp hj)
  · intro hb
    obtain ⟨j, hjb, hr⟩ := reaches_of_mem_componentOf hia hb
    exact mem_valuesAt.mpr ⟨j, (hiff j).mpr hr, hjb⟩

end Loadout
