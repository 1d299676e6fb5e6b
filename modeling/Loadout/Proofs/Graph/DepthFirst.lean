import Loadout.Graph.Components
import Loadout.Proofs.Graph.Filling
import Mathlib.Data.List.Nodup
import Mathlib.Data.List.Sort
import Mathlib.Logic.Relation
import Mathlib.Order.SetNotation
import Mathlib.Data.Set.Basic
import Mathlib.Order.Bounds.Basic

/-!
# Depth-first search

A search finds what its stack reaches and nothing has visited, `Table.search_eq`, and what it leaves
behind is closed: no cell leads from an index that was found to one that is not visited.  So the
components of a table are the classes that `Table.Decomposed` describes: each holds what its first
index reaches outside the earlier ones, `Decomposed.mem_nth_iff`, and they come in the order of these
indices.  Symmetry is not needed for this.  With it, a component is all that any of its indices
reaches, and no cell joins two components.
-/

namespace Loadout.Table

open Relation

variable {t : Table} {n : Nat}

/-- A cell leads from one index to another. -/
def Edge (t : Table) (i j : Nat) : Prop :=
  t.cell i j = true

/-- Cells lead from one index to another. -/
abbrev Reaches (t : Table) : Nat → Nat → Prop :=
  ReflTransGen t.Edge

theorem mem_columns {i j : Nat} : j ∈ t.columns i ↔ t.Edge i j := by
  simp only [columns, List.mem_filter, List.mem_range, Edge, and_iff_right_iff_imp]
  intro h
  by_contra hj
  rw [cell, Array.getD, dif_neg hj] at h
  exact Bool.false_ne_true h

/-- The indices that are visited. -/
def visitedSet (visited : Array Bool) : Set Nat :=
  {i | visited[i]? = some true}

/-- Visit some indices. -/
def visitAll (visited : Array Bool) (indices : List Nat) : Array Bool :=
  indices.foldl (fun visited i ↦ visited.setIfInBounds i true) visited

@[simp] theorem size_visitAll (visited : Array Bool) (indices : List Nat) :
    (visitAll visited indices).size = visited.size := by
  induction indices generalizing visited with
  | nil => rfl
  | cons i indices ih => rw [visitAll, List.foldl_cons, ← visitAll, ih, Array.size_setIfInBounds]

theorem mem_visitedSet_set {visited : Array Bool} {i j : Nat} (hi : i < visited.size) :
    j ∈ visitedSet (visited.setIfInBounds i true) ↔ j ∈ visitedSet visited ∨ j = i := by
  by_cases h : i = j
  · subst h
    simp [visitedSet, hi]
  · simp [visitedSet, Array.getElem?_setIfInBounds_ne h, Ne.symm h]

theorem mem_visitedSet_visitAll {visited : Array Bool} {indices : List Nat} {j : Nat}
    (h : ∀ i ∈ indices, i < visited.size) :
    j ∈ visitedSet (visitAll visited indices) ↔ j ∈ visitedSet visited ∨ j ∈ indices := by
  induction indices generalizing visited with
  | nil => simp [visitAll]
  | cons i indices ih =>
    rw [visitAll, List.foldl_cons, ← visitAll,
      ih fun k hk ↦ by simpa using h k (List.mem_cons_of_mem _ hk),
      mem_visitedSet_set (h i List.mem_cons_self), List.mem_cons, or_assoc]

theorem lt_of_unvisited {visited : Array Bool} {i : Nat} (h : visited[i]? = some false) :
    i < visited.size :=
  (Array.getElem?_eq_some_iff.mp h).1

theorem unvisited_iff {visited : Array Bool} {i : Nat} (hi : i < visited.size) :
    visited[i]? = some false ↔ i ∉ visitedSet visited := by
  simp [visitedSet, hi]

/-- What a search from a stack finds, given what is visited before it. -/
structure Explored (t : Table) (stack : List Nat) (visited : Array Bool) (found : List Nat) :
    Prop where
  fresh : ∀ i ∈ found, visited[i]? = some false
  nodup : found.Nodup
  reached : ∀ i ∈ found, ∃ s ∈ stack, t.Reaches s i
  started : ∀ s ∈ stack, s < visited.size → s ∈ visitedSet visited ∨ s ∈ found
  closed : ∀ i ∈ found, ∀ j < visited.size, t.Edge i j → j ∈ visitedSet visited ∨ j ∈ found

theorem Explored.lt {stack found : List Nat} {visited : Array Bool}
    (h : Explored t stack visited found) {i : Nat} (hi : i ∈ found) : i < visited.size :=
  lt_of_unvisited (h.fresh i hi)

/-- An index that was visited before adds nothing. -/
theorem Explored.skip {i : Nat} {stack found : List Nat} {visited : Array Bool}
    (hi : ¬ visited[i]? = some false) (h : Explored t stack visited found) :
    Explored t (i :: stack) visited found where
  fresh := h.fresh
  nodup := h.nodup
  reached j hj := by
    obtain ⟨s, hs, hr⟩ := h.reached j hj
    exact ⟨s, List.mem_cons_of_mem _ hs, hr⟩
  started s hs hlt := by
    rcases List.mem_cons.mp hs with rfl | hs
    · exact .inl (by_contra fun hv ↦ hi ((unvisited_iff hlt).mpr hv))
    · exact h.started s hs hlt
  closed := h.closed

/-- A first visit adds the index, and its neighbours are searched before the rest of the stack. -/
theorem Explored.visit {i : Nat} {stack found : List Nat} {visited : Array Bool}
    (hi : visited[i]? = some false)
    (h : Explored t ((t.columns i).reverse ++ stack) (visited.setIfInBounds i true) found) :
    Explored t (i :: stack) visited (i :: found) := by
  have hlt : i < visited.size := lt_of_unvisited hi
  have hset : ∀ {j}, j ∈ visitedSet (visited.setIfInBounds i true) ∨ j ∈ found →
      j ∈ visitedSet visited ∨ j ∈ i :: found := by
    intro j hj
    rw [mem_visitedSet_set hlt, or_assoc] at hj
    simpa using hj
  have hne : ∀ j ∈ found, j ≠ i ∧ visited[j]? = some false := by
    intro j hj
    have hf := h.fresh j hj
    by_cases hij : i = j
    · subst hij
      simp [hlt] at hf
    · exact ⟨Ne.symm hij, by rwa [Array.getElem?_setIfInBounds_ne hij] at hf⟩
  refine ⟨?_, ?_, ?_, ?_, ?_⟩
  · intro j hj
    rcases List.mem_cons.mp hj with rfl | hj
    · exact hi
    · exact (hne j hj).2
  · exact List.nodup_cons.mpr ⟨fun hmem ↦ (hne i hmem).1 rfl, h.nodup⟩
  · intro j hj
    rcases List.mem_cons.mp hj with rfl | hj
    · exact ⟨j, List.mem_cons_self, .refl⟩
    · obtain ⟨s, hs, hr⟩ := h.reached j hj
      rcases List.mem_append.mp hs with hs | hs
      · have he : t.Edge i s := mem_columns.mp (List.mem_reverse.mp hs)
        exact ⟨i, List.mem_cons_self, .head he hr⟩
      · exact ⟨s, List.mem_cons_of_mem _ hs, hr⟩
  · intro s hs hsize
    rcases List.mem_cons.mp hs with rfl | hs
    · exact .inr List.mem_cons_self
    · exact hset (h.started s (List.mem_append_right _ hs) (by simpa using hsize))
  · intro j hj k hk he
    rcases List.mem_cons.mp hj with rfl | hj
    · have hmem : k ∈ (t.columns j).reverse ++ stack :=
        List.mem_append_left _ (List.mem_reverse.mpr (mem_columns.mpr he))
      exact hset (h.started k hmem (by simpa using hk))
    · exact hset (h.closed j hj k (by simpa using hk) he)

/-- A search visits what it finds and puts it after what was found before. -/
theorem search_eq (t : Table) (stack : List Nat) (visited : Array Bool) (found : List Nat) :
    ∃ new, Explored t stack visited new ∧
      t.search stack visited found = (found ++ new, visitAll visited new) := by
  induction stack, visited, found using Table.search.induct t with
  | case1 visited found =>
    refine ⟨[], ⟨by simp, .nil, by simp, by simp, by simp⟩, ?_⟩
    rw [search, List.append_nil, visitAll, List.foldl_nil]
  | case2 visited found i stack hi ih =>
    obtain ⟨new, hnew, heq⟩ := ih
    refine ⟨i :: new, hnew.visit hi, ?_⟩
    rw [search, dif_pos hi, heq, List.append_assoc, List.singleton_append, visitAll, visitAll,
      List.foldl_cons]
  | case3 visited found i stack hi ih =>
    obtain ⟨new, hnew, heq⟩ := ih
    exact ⟨new, hnew.skip hi, by rw [search, dif_neg hi, heq]⟩

/-! ## Components -/

/-- What has been seen is closed: no cell leads out of it. -/
def Closed (t : Table) (seen : Set Nat) : Prop :=
  ∀ i ∈ seen, ∀ j, t.Edge i j → j ∈ seen

theorem Closed.reaches {seen : Set Nat} (h : t.Closed seen) {i j : Nat} (hi : i ∈ seen)
    (hr : t.Reaches i j) : j ∈ seen := by
  induction hr with
  | refl => exact hi
  | tail _ he ih => exact h _ ih _ he

/-- What has been seen stays closed together with all that an index reaches. -/
theorem Closed.union {seen : Set Nat} {start : Nat} {c : List Nat} (h : t.Closed seen)
    (hmem : ∀ i, i ∈ c ↔ i ∉ seen ∧ t.Reaches start i) : t.Closed (seen ∪ {i | i ∈ c}) := by
  rintro i (hi | hi) j he
  · exact .inl (h i hi j he)
  · by_cases hj : j ∈ seen
    · exact .inl hj
    · exact .inr ((hmem j).mpr ⟨hj, ((hmem i).mp hi).2.tail he⟩)

/-- The components of the indices below `n` that have not been seen: the first of them holds what
the least such index reaches, in ascending order, and the others are those of what is left. -/
inductive Decomposed (t : Table) (n : Nat) : Set Nat → List (List Nat) → Prop
  | nil {seen : Set Nat} : (∀ i < n, i ∈ seen) → Decomposed t n seen []
  | cons {seen : Set Nat} {start : Nat} {c : List Nat} {cs : List (List Nat)} :
    start < n → start ∉ seen → (∀ i < start, i ∈ seen) → c.Pairwise (· < ·) →
    (∀ i, i ∈ c ↔ i ∉ seen ∧ t.Reaches start i) →
    Decomposed t n (seen ∪ {i | i ∈ c}) cs → Decomposed t n seen (c :: cs)

theorem Square.lt_of_edge (h : Square n t) {i j : Nat} (hi : i < n) (he : t.Edge i j) : j < n := by
  have hj := mem_columns.mpr he
  rw [columns, h.width i hi] at hj
  exact List.mem_range.mp (List.mem_of_mem_filter hj)

theorem Square.lt_of_reaches (h : Square n t) {i j : Nat} (hi : i < n) (hr : t.Reaches i j) :
    j < n := by
  induction hr with
  | refl => exact hi
  | tail _ he ih => exact h.lt_of_edge ih he

/-- A search from one unvisited index finds what the index reaches outside of a closed set. -/
theorem Explored.mem_iff (ht : Square n t) {start : Nat} {visited : Array Bool} {found : List Nat}
    (h : Explored t [start] visited found) (hsize : visited.size = n)
    (hstart : visited[start]? = some false) (hclosed : t.Closed (visitedSet visited)) (i : Nat) :
    i ∈ found ↔ i ∉ visitedSet visited ∧ t.Reaches start i := by
  have hlt : start < n := hsize ▸ lt_of_unvisited hstart
  constructor
  · intro hi
    obtain ⟨s, hs, hr⟩ := h.reached i hi
    rw [List.mem_singleton.mp hs] at hr
    exact ⟨(unvisited_iff (h.lt hi)).mp (h.fresh i hi), hr⟩
  · rintro ⟨hi, hr⟩
    have hseen : i ∈ visitedSet visited ∨ i ∈ found := by
      clear hi
      induction hr with
      | refl => exact h.started start List.mem_cons_self (hsize ▸ hlt)
      | @tail j k hj he ih =>
        rcases ih with hv | hf
        · exact .inl (hclosed j hv k he)
        · exact h.closed j hf k (hsize ▸ ht.lt_of_reaches hlt (hj.tail he)) he
    exact hseen.resolve_left hi

/-- What a search leaves behind is closed if it was so before. -/
theorem Explored.closed_union (ht : Square n t) {stack found : List Nat} {visited : Array Bool}
    (h : Explored t stack visited found) (hsize : visited.size = n)
    (hclosed : t.Closed (visitedSet visited)) :
    t.Closed (visitedSet (visitAll visited found)) := by
  intro i hi j he
  rw [mem_visitedSet_visitAll fun k hk ↦ h.lt hk] at hi ⊢
  rcases hi with hi | hi
  · exact .inl (hclosed i hi j he)
  · exact h.closed i hi j (hsize ▸ ht.lt_of_edge (hsize ▸ h.lt hi) he) he

theorem pairwise_lt_mergeSort {l : List Nat} (h : l.Nodup) : l.mergeSort.Pairwise (· < ·) := by
  have hle : l.mergeSort.Pairwise (· ≤ ·) := List.pairwise_mergeSort' (· ≤ ·) l
  have hne : l.mergeSort.Pairwise (· ≠ ·) := ((List.mergeSort_perm l _).nodup_iff).mpr h
  exact (hle.and hne).imp fun h ↦ Nat.lt_of_le_of_ne h.1 h.2

/-- The components that are found from all indices from `k` on. -/
theorem decomposed_componentsFrom (ht : Square n t) {k m : Nat} (hm : k + m = n)
    {visited : Array Bool} (hsize : visited.size = n) (hseen : ∀ i < k, i ∈ visitedSet visited)
    (hclosed : t.Closed (visitedSet visited)) :
    t.Decomposed n (visitedSet visited) (t.componentsFrom (List.range' k m) visited) := by
  induction m generalizing k visited with
  | zero => exact .nil fun i hi ↦ hseen i (by omega)
  | succ m ih =>
    rw [List.range'_succ, componentsFrom]
    split
    next hk =>
      obtain ⟨new, hnew, heq⟩ := search_eq t [k] visited []
      have hmem := hnew.mem_iff ht hsize hk hclosed
      have hset : visitedSet (visitAll visited new) = visitedSet visited ∪ {i | i ∈ new} := by
        ext i
        exact mem_visitedSet_visitAll fun j hj ↦ hnew.lt hj
      have hin : k ∈ new := (hmem k).mpr ⟨(unvisited_iff (hsize ▸ by omega)).mp hk, .refl⟩
      have hall : ∀ i < k + 1, i ∈ visitedSet (visitAll visited new) := by
        intro i hi
        rw [hset]
        rcases Nat.lt_succ_iff_lt_or_eq.mp hi with hi | rfl
        · exact .inl (hseen i hi)
        · exact .inr hin
      have hnext := ih (by omega) (by simpa using hsize) hall (hnew.closed_union ht hsize hclosed)
      rw [heq, List.nil_append]
      refine .cons (by omega) ((hmem k).mp hin).1 hseen (pairwise_lt_mergeSort hnew.nodup) ?_ ?_
      · simpa using hmem
      · simpa [hset] using hnext
    next hk =>
      refine ih (by omega) hsize (fun i hi ↦ ?_) hclosed
      rcases Nat.lt_succ_iff_lt_or_eq.mp hi with hi | rfl
      · exact hseen i hi
      · by_contra hv
        exact hk ((unvisited_iff (hsize ▸ by omega)).mpr hv)

/-- The components of a table decompose all of its indices. -/
theorem decomposed_components (ht : Square n t) : t.Decomposed n ∅ (t.components n) := by
  have hempty : visitedSet (Array.replicate n false) = ∅ := by
    ext i
    simp [visitedSet, Array.getElem?_replicate]
  rw [components, List.range_eq_range', ← hempty]
  refine decomposed_componentsFrom ht (Nat.zero_add n) (by simp) (by simp) ?_
  rw [hempty]
  exact fun i hi ↦ hi.elim

/-- The index that a component is found from is its least one. -/
theorem isLeast_start {seen : Set Nat} {start : Nat} {c : List Nat} (hfresh : start ∉ seen)
    (hbefore : ∀ i < start, i ∈ seen) (hmem : ∀ i, i ∈ c ↔ i ∉ seen ∧ t.Reaches start i) :
    IsLeast {i | i ∈ c} start := by
  refine ⟨(hmem start).mpr ⟨hfresh, .refl⟩, fun i hi ↦ ?_⟩
  by_contra hlt
  exact ((hmem i).mp hi).1 (hbefore i (Nat.lt_of_not_le hlt))

namespace Decomposed

variable {seen : Set Nat} {cs : List (List Nat)}

theorem sorted (h : t.Decomposed n seen cs) : ∀ c ∈ cs, c.Pairwise (· < ·) := by
  induction h with
  | nil => simp
  | cons _ _ _ hc _ _ ih => exact List.forall_mem_cons.mpr ⟨hc, ih⟩

theorem exists_mem (h : t.Decomposed n seen cs) : ∀ c ∈ cs, ∃ i, i ∈ c := by
  induction h with
  | nil => simp
  | @cons _ start _ _ _ hfresh _ _ hmem _ ih =>
    exact List.forall_mem_cons.mpr ⟨⟨start, (hmem start).mpr ⟨hfresh, .refl⟩⟩, ih⟩

theorem mem_flatten (ht : Square n t) (h : t.Decomposed n seen cs) (i : Nat) :
    i ∈ cs.flatten ↔ i < n ∧ i ∉ seen := by
  induction h with
  | nil hall => simpa using fun hi ↦ hall i hi
  | @cons seen start c cs hstart hfresh _ _ hmem _ ih =>
    rw [List.flatten_cons, List.mem_append, ih, hmem, Set.mem_union, Set.mem_ofPred_eq, hmem]
    constructor
    · rintro (⟨hi, hr⟩ | ⟨hi, hn⟩)
      · exact ⟨ht.lt_of_reaches hstart hr, hi⟩
      · exact ⟨hi, fun h ↦ hn (.inl h)⟩
    · rintro ⟨hi, hn⟩
      by_cases hr : t.Reaches start i
      · exact .inl ⟨hn, hr⟩
      · exact .inr ⟨hi, by tauto⟩

theorem nodup_flatten (ht : Square n t) (h : t.Decomposed n seen cs) : cs.flatten.Nodup := by
  induction h with
  | nil => exact .nil
  | cons _ _ _ hc hmem hcs ih =>
    rw [List.flatten_cons]
    refine List.Nodup.append (hc.imp Nat.ne_of_lt) ih fun i hi hi' ↦ ?_
    exact ((hcs.mem_flatten ht i).mp hi').2 (.inr hi)

theorem lt_of_mem (ht : Square n t) (h : t.Decomposed n seen cs) {c : List Nat} (hc : c ∈ cs)
    {i : Nat} (hi : i ∈ c) : i < n :=
  ((h.mem_flatten ht i).mp (List.mem_flatten_of_mem hc hi)).1

/-- The components hold every index once. -/
theorem perm_range (ht : Square n t) (h : t.Decomposed n ∅ cs) :
    cs.flatten.Perm (List.range n) := by
  refine (List.perm_ext_iff_of_nodup (h.nodup_flatten ht) List.nodup_range).mpr fun i ↦ ?_
  simp [h.mem_flatten ht]

/-- A component holds what its least index reaches outside the earlier ones. -/
theorem mem_nth_iff (h : t.Decomposed n seen cs) {k : Nat} {c : List Nat} (hk : cs[k]? = some c) :
    ∃ start, IsLeast {i | i ∈ c} start ∧
      ∀ i, i ∈ c ↔ t.Reaches start i ∧ i ∉ seen ∧ i ∉ (cs.take k).flatten := by
  induction h generalizing k with
  | nil => simp at hk
  | @cons seen start d cs _ hfresh hbefore _ hmem _ ih =>
    cases k with
    | zero =>
      obtain rfl : d = c := by simpa using hk
      refine ⟨start, isLeast_start hfresh hbefore hmem, fun i ↦ ?_⟩
      rw [hmem, List.take_zero, List.flatten_nil]
      simp [and_comm]
    | succ k =>
      obtain ⟨least, hleast, hiff⟩ := ih (by simpa using hk)
      refine ⟨least, hleast, fun i ↦ ?_⟩
      rw [hiff, List.take_succ_cons, List.flatten_cons, List.mem_append, Set.mem_union,
        Set.mem_ofPred_eq]
      tauto

/-- The components come in the order of their least indices. -/
theorem pairwise_least (ht : Square n t) (h : t.Decomposed n seen cs) :
    cs.Pairwise fun c d ↦ ∀ i j, IsLeast {k | k ∈ c} i → IsLeast {k | k ∈ d} j → i < j := by
  induction h with
  | nil => exact .nil
  | @cons seen start c cs _ hfresh hbefore _ hmem hcs ih =>
    refine List.pairwise_cons.mpr ⟨fun d hd i j hi hj ↦ ?_, ih⟩
    obtain rfl := hi.unique (isLeast_start hfresh hbefore hmem)
    have hlater := ((hcs.mem_flatten ht j).mp (List.mem_flatten_of_mem hd hj.1)).2
    rcases Nat.lt_trichotomy i j with hlt | rfl | hlt
    · exact hlt
    · exact absurd (.inr hi.1) hlater
    · exact absurd (.inl (hbefore j hlt)) hlater

/-- No cell leads from a component to a later one. -/
theorem pairwise_not_edge (ht : Square n t) (h : t.Decomposed n seen cs) :
    cs.Pairwise fun c d ↦ ∀ i ∈ c, ∀ j ∈ d, ¬ t.Edge i j := by
  induction h with
  | nil => exact .nil
  | @cons seen start c cs _ _ _ _ hmem hcs ih =>
    refine List.pairwise_cons.mpr ⟨fun d hd i hi j hj he ↦ ?_, ih⟩
    have hj := ((hcs.mem_flatten ht j).mp (List.mem_flatten_of_mem hd hj)).2
    have hr : t.Reaches start j := ((hmem i).mp hi).2.tail he
    exact hj (.inr ((hmem j).mpr ⟨fun hs ↦ hj (.inl hs), hr⟩))

/-- In a symmetric table a component is all that any of its indices reaches. -/
theorem mem_iff_reaches [Std.Symm t.Edge] (h : t.Decomposed n seen cs) (hclosed : t.Closed seen) :
    ∀ c ∈ cs, ∀ i ∈ c, ∀ j, j ∈ c ↔ t.Reaches i j := by
  have hback : ∀ {i j}, t.Reaches i j → t.Reaches j i := ReflTransGen.stdSymm.symm _ _
  induction h with
  | nil => simp
  | @cons seen start c cs _ _ _ _ hmem _ ih =>
    refine List.forall_mem_cons.mpr
      ⟨fun i hi j ↦ ⟨fun hj ↦ ?_, fun hr ↦ ?_⟩, ih (hclosed.union hmem)⟩
    · exact (hback ((hmem i).mp hi).2).trans ((hmem j).mp hj).2
    · obtain ⟨hi, hsi⟩ := (hmem i).mp hi
      exact (hmem j).mpr ⟨fun hj ↦ hi (hclosed.reaches hj (hback hr)), hsi.trans hr⟩

/-- In a symmetric table two indices are in one component if and only if one reaches the other. -/
theorem exists_mem_iff_reaches [Std.Symm t.Edge] (ht : Square n t) (h : t.Decomposed n ∅ cs)
    {i : Nat} (hi : i < n) (j : Nat) : (∃ c ∈ cs, i ∈ c ∧ j ∈ c) ↔ t.Reaches i j := by
  have hiff := h.mem_iff_reaches fun _ h ↦ h.elim
  constructor
  · rintro ⟨c, hc, hic, hjc⟩
    exact (hiff c hc i hic j).mp hjc
  · intro hr
    obtain ⟨c, hc, hic⟩ := List.mem_flatten.mp ((h.mem_flatten ht i).mpr ⟨hi, id⟩)
    exact ⟨c, hc, hic, (hiff c hc i hic j).mpr hr⟩

end Decomposed

namespace Sample

/-- Three indices that are all related to each other. -/
def triangle : Table :=
  #[#[false, true, true], #[true, false, true], #[true, true, false]]

theorem components_triangle : triangle.components 3 = [[0, 1, 2]] := by
  have hzero : triangle.columns 0 = [1, 2] := rfl
  have hone : triangle.columns 1 = [0, 2] := rfl
  have htwo : triangle.columns 2 = [0, 1] := rfl
  have hindices : List.range 3 = [0, 1, 2] := rfl
  have hnone : Array.replicate 3 false = #[false, false, false] := rfl
  rw [components, hindices, hnone]
  simp [componentsFrom, search, hzero, hone, htwo, List.mergeSort,
    List.MergeSort.Internal.splitInTwo]

end Sample

end Loadout.Table
