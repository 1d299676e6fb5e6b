import Loadout.Gear.Reduction
import Loadout.Proofs.Distinct
import Mathlib.Data.Set.Lattice
import Mathlib.Order.CompletePartialOrder

/-!
# Lists of slots as sets

Two lists of different slots are compared by their lengths and by whether the slots of the first are
in the second.  If equality of slots is an equivalence, this is a comparison of sets,
`sameSlots_iff`, and two lists have a slot in common if and only if the sets do, `shareSlot_iff`.
-/

namespace Loadout.Gear

variable {σ : Type} [BEq σ] {xs ys : List σ}

/-- The slots that equal one in a list. -/
def occupied (xs : List σ) : Set σ :=
  {s | ∃ t ∈ xs, (s == t) = true}

theorem contains_iff_mem_occupied {s : σ} : xs.contains s = true ↔ s ∈ occupied xs :=
  List.contains_iff_exists_mem_beq

theorem mem_occupied_singleton {s t : σ} : s ∈ occupied [t] ↔ (s == t) = true := by
  simp [occupied]

variable [EquivBEq σ]

theorem mem_occupied {s : σ} (h : s ∈ xs) : s ∈ occupied xs :=
  ⟨s, h, BEq.rfl⟩

theorem mem_occupied_congr {s t : σ} (h : (s == t) = true) : s ∈ occupied xs ↔ t ∈ occupied xs := by
  constructor
  · rintro ⟨u, hu, hsu⟩
    exact ⟨u, hu, BEq.trans (BEq.symm h) hsu⟩
  · rintro ⟨u, hu, htu⟩
    exact ⟨u, hu, BEq.trans h htu⟩

theorem occupied_subset_iff : occupied xs ⊆ occupied ys ↔ ∀ s ∈ xs, s ∈ occupied ys := by
  constructor
  · intro h s hs
    exact h (mem_occupied hs)
  · rintro h s ⟨t, ht, hst⟩
    exact (mem_occupied_congr hst).mpr (h t ht)

/-- Naming a slot again does not occupy another one. -/
theorem occupied_eraseDups (xs : List σ) : occupied xs.eraseDups = occupied xs := by
  refine Set.Subset.antisymm (occupied_subset_iff.mpr fun s hs ↦ ?_) ?_
  · exact mem_occupied ((eraseDups_sublist xs).subset hs)
  · refine occupied_subset_iff.mpr fun s hs ↦ ?_
    induction xs using eraseDups_induction with
    | nil => exact absurd hs List.not_mem_nil
    | cons x xs ih =>
      rw [List.eraseDups_cons]
      by_cases hsx : (s == x) = true
      · exact ⟨x, List.mem_cons_self, hsx⟩
      · have hrest : s ∈ xs := by
          rcases List.mem_cons.mp hs with rfl | hs
          · exact absurd BEq.rfl hsx
          · exact hs
        obtain ⟨t, ht, hst⟩ := ih (List.mem_filter.mpr ⟨hrest, by simpa using hsx⟩)
        exact ⟨t, List.mem_cons_of_mem _ ht, hst⟩

theorem shareSlot_iff : shareSlot xs ys = true ↔ (occupied xs ∩ occupied ys).Nonempty := by
  rw [shareSlot, List.any_eq_true]
  constructor
  · rintro ⟨s, hs, hys⟩
    exact ⟨s, mem_occupied hs, contains_iff_mem_occupied.mp hys⟩
  · rintro ⟨s, ⟨t, ht, hst⟩, hys⟩
    exact ⟨t, ht, contains_iff_mem_occupied.mpr ((mem_occupied_congr hst).mp hys)⟩

theorem shareSlot_eq_false_iff :
    shareSlot xs ys = false ↔ Disjoint (occupied xs) (occupied ys) := by
  rw [← Bool.not_eq_true, shareSlot_iff, Set.not_nonempty_iff_eq_empty,
    Set.disjoint_iff_inter_eq_empty]

theorem shareSlot_comm (xs ys : List σ) : shareSlot xs ys = shareSlot ys xs := by
  rw [Bool.eq_iff_iff, shareSlot_iff, shareSlot_iff, Set.inter_comm]

/-- Different slots that are all in a list are not more than the list has. -/
theorem length_le_of_occupied_subset (hxs : Distinct xs) (h : occupied xs ⊆ occupied ys) :
    xs.length ≤ ys.length := by
  induction xs generalizing ys with
  | nil => exact Nat.zero_le _
  | cons x xs ih =>
    obtain ⟨hx, hxs⟩ := List.pairwise_cons.mp hxs
    obtain ⟨t, ht, hxt⟩ := h (mem_occupied List.mem_cons_self)
    obtain ⟨before, after, rfl⟩ := List.append_of_mem ht
    have hsub : occupied xs ⊆ occupied (before ++ after) := by
      refine occupied_subset_iff.mpr fun s hs ↦ ?_
      obtain ⟨u, hu, hsu⟩ := h (mem_occupied (List.mem_cons_of_mem _ hs))
      rcases List.mem_append.mp hu with hu | hu
      · exact ⟨u, List.mem_append_left _ hu, hsu⟩
      · rcases List.mem_cons.mp hu with rfl | hu
        · have hsx : (s == x) = true := BEq.trans hsu (BEq.symm hxt)
          rw [hx s hs] at hsx
          exact Bool.noConfusion hsx
        · exact ⟨u, List.mem_append_right _ hu, hsu⟩
    have hle := ih hxs hsub
    simp only [List.length_cons, List.length_append] at hle ⊢
    omega

theorem occupied_eq_of_length_le (hxs : Distinct xs) (h : occupied xs ⊆ occupied ys)
    (hle : ys.length ≤ xs.length) : occupied xs = occupied ys := by
  refine Set.Subset.antisymm h fun s hs ↦ ?_
  by_contra hnot
  have hdistinct : Distinct (s :: xs) := by
    refine List.pairwise_cons.mpr ⟨fun t ht ↦ ?_, hxs⟩
    by_contra hts
    exact hnot ⟨t, ht, BEq.symm (by simpa using hts)⟩
  have hsub : occupied (s :: xs) ⊆ occupied ys := by
    refine occupied_subset_iff.mpr fun t ht ↦ ?_
    rcases List.mem_cons.mp ht with rfl | ht
    · exact hs
    · exact h (mem_occupied ht)
  have hlt := length_le_of_occupied_subset hdistinct hsub
  rw [List.length_cons] at hlt
  omega

/-- Lists of different slots are compared as sets. -/
theorem sameSlots_iff (hxs : Distinct xs) (hys : Distinct ys) :
    sameSlots xs ys = true ↔ occupied xs = occupied ys := by
  rw [sameSlots, Bool.and_eq_true, beq_iff_eq, List.all_eq_true]
  constructor
  · rintro ⟨hlength, hall⟩
    refine occupied_eq_of_length_le hxs (occupied_subset_iff.mpr fun s hs ↦ ?_)
      (le_of_eq hlength.symm)
    exact contains_iff_mem_occupied.mp (hall s hs)
  · intro h
    refine ⟨le_antisymm (length_le_of_occupied_subset hxs (le_of_eq h))
      (length_le_of_occupied_subset hys (le_of_eq h.symm)), fun s hs ↦ ?_⟩
    exact contains_iff_mem_occupied.mpr (h ▸ mem_occupied hs)

end Loadout.Gear
