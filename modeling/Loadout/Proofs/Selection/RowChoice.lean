import Loadout.Proofs.Selection.InfiniteWeight
import Mathlib.Algebra.BigOperators.Fin
import Mathlib.Algebra.Order.Ring.Int

/-!
# The choice of a row

With exact weights of any sign a row weighs what its owner weighs and, besides, every other
candidate that is disjoint from the owner, `DisjointRow.rowSum_eq`; in particular the owner counts
once.  The first of the heaviest rows is selected as a whole, and it weighs what was found for it,
`DisjointRow.find_row`.
-/

namespace Loadout

/-! ## Sample collections -/

namespace Sample

/-- Sets that overlap in several ways, among them the empty one. -/
def bundles : List Value :=
  [.frozen [.integer 4], .frozen [.integer 1, .integer 2], .frozen [], .frozen [.integer 2],
    .frozen [.integer 3, .integer 1]]

/-- The empty set and a set of two elements that has 2 in it have negative weights. -/
def toll : Value → Int
  | .frozen [] => -1
  | .frozen [_, .integer 2] => -3
  | .frozen [.integer 4] => 0
  | _ => 2

theorem eraseDups_bundles : bundles.eraseDups = bundles :=
  Distinct.eraseDups_eq (by decide +kernel)

theorem collects_bundles : ∀ v ∈ bundles.eraseDups, v.Collects (contents v) := by
  intro v hv
  rw [eraseDups_bundles] at hv
  simp only [bundles, List.mem_cons, List.not_mem_nil, or_false] at hv
  rcases hv with rfl | rfl | rfl | rfl | rfl
  · exact collects_integers [4] (by decide +kernel)
  · exact collects_integers [1, 2] (by decide +kernel)
  · exact collects_integers [] (by decide +kernel)
  · exact collects_integers [2] (by decide +kernel)
  · exact collects_integers [3, 1] (by decide +kernel)

end Sample

namespace DisjointRow

variable {α φ : Type} {p : α → α → Bool} {values : List α} {weight : α → φ}

/-! ## What a row weighs -/

section Sums

variable [AddCommMonoid φ]

/-- What the value at a place weighs, and besides it all values at other places that are not related
to it. -/
def rowSum (p : α → α → Bool) (weight : α → φ) (values : List α) (i : Fin values.length) : φ :=
  weight values[i] + ∑ j with j ≠ i ∧ p values[i] values[j] = false, weight values[j]

theorem partners_eq (i : Fin values.length) :
    valuesAt values (partners (tableOf p values) values.length i) =
      ((List.finRange values.length).filter fun j ↦
        decide (j ≠ i ∧ p values[i] values[j] = false)).map (values[·]) := by
  have hplace : ∀ j : Fin values.length, values[(j : Nat)]? = some values[j] := fun j ↦
    List.getElem?_eq_getElem j.isLt
  have hpartner : ∀ j : Fin values.length,
      (i.val != j.val && !(tableOf p values).cell i j) =
        decide (j ≠ i ∧ p values[i] values[j] = false) := by
    intro j
    have hrange : (j : Nat) ∈ List.range values.length := List.mem_range.mpr j.isLt
    have hmem := mem_partners (p := p) (hplace i) (hplace j)
    rw [partners, List.mem_filter, and_iff_right hrange] at hmem
    rw [Bool.eq_iff_iff, hmem, decide_eq_true_iff, Fin.ne_iff_vne, ne_comm]
  rw [partners, ← List.map_coe_finRange_eq_range, List.filter_map, valuesAt, List.filterMap_map,
    ← List.filterMap_eq_map]
  simp only [Function.comp_def, hpartner, hplace]

theorem rowSum_eq (p : α → α → Bool) (weight : α → φ) (values : List α) (i : Fin values.length) :
    rowSum p weight values i = total weight (rowOf p values i) := by
  have hi : values[(i : Nat)]? = some values[i] := List.getElem?_eq_getElem i.isLt
  rw [rowOf_eq hi, total_cons, rowSum, partners_eq, Finset.sum_filter, Fin.sum_univ_def]
  congr 1
  rw [List.sum_map_ite, total, List.map_map]
  simp [Function.comp_def]

end Sums

/-! ## The first of the heaviest rows -/

section Choice

/-- A row that is heaviest, and heavier than all earlier ones, with all its members. -/
structure FirstHeaviestRow [AddCommMonoid φ] [LE φ] [LT φ] (p : α → α → Bool) (weight : α → φ)
    (values : List α) (S : List α) (m : Fin values.length) : Prop where
  heaviest : ∀ i, rowSum p weight values i ≤ rowSum p weight values m
  first : ∀ i < m, rowSum p weight values i < rowSum p weight values m
  nodup : S.Nodup
  mem_iff : ∀ b, b ∈ S ↔
    b = values[m] ∨ ∃ j, j ≠ m ∧ p values[m] values[j] = false ∧ b = values[j]
  total : total weight S = rowSum p weight values m

theorem mem_rowOf_iff (m : Fin values.length) (b : α) :
    b ∈ rowOf p values m ↔
      b = values[m] ∨ ∃ j, j ≠ m ∧ p values[m] values[j] = false ∧ b = values[j] := by
  have hm : values[(m : Nat)]? = some values[m] := List.getElem?_eq_getElem m.isLt
  rw [rowOf_eq hm, List.mem_cons, partners_eq, List.mem_map]
  refine or_congr_right (exists_congr fun j ↦ ?_)
  rw [List.mem_filter, decide_eq_true_iff]
  constructor
  · rintro ⟨⟨-, hne, hdisjoint⟩, rfl⟩
    exact ⟨hne, hdisjoint, rfl⟩
  · rintro ⟨hne, hdisjoint, rfl⟩
    exact ⟨⟨List.mem_finRange j, hne, hdisjoint⟩, rfl⟩

variable [Ring φ]

theorem getElem?_rowTotals (p : α → α → Bool) (weight : α → φ) (values : List α)
    (i : Fin values.length) :
    (rowTotals p weight values)[(i : Nat)]? = some (rowSum p weight values i) := by
  rw [rowTotals, List.getElem?_map, List.getElem?_range i.isLt, Option.map_some, rowSum_eq]

variable [LinearOrder φ]

/-- Of at least two different values, the first of the heaviest rows is selected. -/
theorem selectedRow_firstHeaviestRow (hv : values.Nodup) (p : α → α → Bool) (weight : α → φ)
    (hsize : 2 ≤ values.length) :
    ∃ m, FirstHeaviestRow p weight values (selectedRow p weight values) m := by
  have hnil : rowTotals p weight values ≠ [] := by
    intro hnil
    have hlength := congrArg List.length hnil
    rw [rowTotals, List.length_map, List.length_range, List.length_nil] at hlength
    omega
  obtain ⟨most, hmost, hall, hbefore⟩ := heaviest_zipIdx hnil
  have hlt : DisjointRow.heaviest (rowTotals p weight values).zipIdx < values.length := by
    have h := (List.getElem?_eq_some_iff.mp hmost).1
    rwa [rowTotals, List.length_map, List.length_range] at h
  set m : Fin values.length := ⟨_, hlt⟩ with hm
  have hselected : selectedRow p weight values = rowOf p values m := by
    rw [selectedRow, if_neg (Nat.not_lt.mpr hsize), heaviestRow]
  have hrow : most = rowSum p weight values m :=
    Option.some.inj (hmost.symm.trans (getElem?_rowTotals p weight values m))
  rw [hselected]
  refine ⟨m, fun i ↦ ?_, fun i hi ↦ ?_, nodup_rowOf hv p m, mem_rowOf_iff m,
    (rowSum_eq p weight values m).symm⟩
  · rw [← hrow]
    exact hall _ (List.mem_of_getElem? (getElem?_rowTotals p weight values i))
  · rw [← hrow]
    exact hbefore i hi _ (getElem?_rowTotals p weight values i)

end Choice

/-! ## The run -/

section Run

open Value (overlap)

variable {ω : Type} [Ring φ] [LinearOrder φ] {labels : Labels Caller Value φ} {tabulate : Tabulator}
variable {candidates : List Value} {weighing : Weighing Caller Value ω φ} {weight : Value → φ}
variable {elementsOf : Value → List Value} {fails : Failure → Prop}

/-- Of at least two different collections the first of the heaviest rows is found: its owner, and
all others that share no element with the owner.  They weigh together what the row weighs.  Where a
collection cannot be printed or the table of the rows cannot be laid out, a run may fail as that
does. -/
theorem find_row (hcollects : ∀ v ∈ candidates.eraseDups, v.Collects (elementsOf v))
    (hnumber : ∀ v ∈ candidates.eraseDups, Call.Ends (weighing.number v) (· = weight v) fails)
    (hlabels : ∀ v ∈ candidates.eraseDups, Call.Ends (labels.vertex v) (fun _ ↦ True) fails)
    (htable : Tabled labels tabulate (fun a b ↦ overlap (elementsOf a) (elementsOf b)) weight
      candidates.eraseDups fails)
    (hsize : 2 ≤ candidates.eraseDups.length) :
    ∃ m, Call.Ends (find labels tabulate candidates Value.intersects weighing)
      (fun S ↦ FirstHeaviestRow (fun a b ↦ overlap (elementsOf a) (elementsOf b)) weight
        candidates.eraseDups S m) fails := by
  have hv : candidates.eraseDups.Nodup := (distinct_eraseDups candidates).nodup_of_self
    fun v hv ↦ (hcollects v hv).comparable.same_self
  have hintersects : ∀ a ∈ candidates.eraseDups, ∀ b ∈ candidates.eraseDups,
      Call.Ends (a.intersects b) (· = overlap (elementsOf a) (elementsOf b)) fails := by
    intro a ha b hb
    exact Value.intersects_ends (hcollects a ha) (hcollects b hb)
  obtain ⟨m, hm⟩ := selectedRow_firstHeaviestRow hv
    (fun a b ↦ overlap (elementsOf a) (elementsOf b)) weight hsize
  refine ⟨m, (find_ends hintersects hnumber hlabels htable).mono ?_⟩
  rintro S rfl
  exact hm

theorem find_row_sample :
    ((∀ v ∈ Sample.bundles.eraseDups, v.Collects (Sample.contents v)) ∧
      2 ≤ Sample.bundles.eraseDups.length) ∧
    ∃ m, Call.Ends
      (find ⟨fun v ↦ pure (Sample.setName v), toString⟩ (fun _ _ ↦ .ok ()) Sample.bundles
        Value.intersects (.known Sample.toll))
      (fun S ↦ FirstHeaviestRow (fun a b ↦ overlap (Sample.contents a) (Sample.contents b))
        Sample.toll Sample.bundles.eraseDups S m) fun _ ↦ False := by
  have hsize : 2 ≤ Sample.bundles.eraseDups.length := by
    rw [Sample.eraseDups_bundles]
    decide
  exact ⟨⟨Sample.collects_bundles, hsize⟩, find_row Sample.collects_bundles
    (fun _ _ ↦ .pure rfl) (fun _ _ ↦ .pure trivial)
    (.of_total (fun _ _ ↦ rfl) fun _ _ ↦ .pure trivial) hsize⟩

end Run

end DisjointRow

end Loadout
