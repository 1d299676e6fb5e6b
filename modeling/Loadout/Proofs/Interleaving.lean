import Mathlib.Data.List.Perm.Basic

/-!
# Interleaved lists

A list interleaves two others if it consists of the values of both, those of each in their order.
-/

namespace Loadout

variable {α : Type} {xs ys zs : List α}

/-- The third list is made of the first two, each of which keeps its order. -/
inductive Interleaving : List α → List α → List α → Prop
  | nil : Interleaving [] [] []
  | left {a : α} {xs ys zs : List α} : Interleaving xs ys zs → Interleaving (a :: xs) ys (a :: zs)
  | right {a : α} {xs ys zs : List α} : Interleaving xs ys zs → Interleaving xs (a :: ys) (a :: zs)

namespace Interleaving

theorem swap (h : Interleaving xs ys zs) : Interleaving ys xs zs := by
  induction h with
  | nil => exact .nil
  | left _ ih => exact .right ih
  | right _ ih => exact .left ih

theorem perm (h : Interleaving xs ys zs) : zs.Perm (xs ++ ys) := by
  induction h with
  | nil => exact .nil
  | left _ ih => exact ih.cons _
  | right _ ih => exact (ih.cons _).trans List.perm_middle.symm

theorem eq_left (h : Interleaving xs [] zs) : zs = xs := by
  induction xs generalizing zs with
  | nil =>
    cases h with
    | nil => rfl
  | cons a xs ih =>
    cases h with
    | left h => rw [ih h]

theorem filter (h : Interleaving xs ys zs) (q : α → Bool) :
    Interleaving (xs.filter q) (ys.filter q) (zs.filter q) := by
  induction h with
  | nil => exact .nil
  | @left a _ _ _ _ ih =>
    by_cases ha : q a = true
    · rw [List.filter_cons_of_pos ha, List.filter_cons_of_pos ha]
      exact .left ih
    · rwa [List.filter_cons_of_neg ha, List.filter_cons_of_neg ha]
  | @right a _ _ _ _ ih =>
    by_cases ha : q a = true
    · rw [List.filter_cons_of_pos ha, List.filter_cons_of_pos ha]
      exact .right ih
    · rwa [List.filter_cons_of_neg ha, List.filter_cons_of_neg ha]

/-- A relation that holds within each of two lists, and both ways between them, holds within a list
that interleaves them. -/
theorem pairwise {r : α → α → Prop} (h : Interleaving xs ys zs) (hxs : xs.Pairwise r)
    (hys : ys.Pairwise r) (hcross : ∀ x ∈ xs, ∀ y ∈ ys, r x y ∧ r y x) : zs.Pairwise r := by
  induction h with
  | nil => exact .nil
  | left h ih =>
    obtain ⟨ha, hxs⟩ := List.pairwise_cons.mp hxs
    obtain ⟨hacross, hcross⟩ := List.forall_mem_cons.mp hcross
    refine List.pairwise_cons.mpr ⟨fun b hb ↦ ?_, ih hxs hys hcross⟩
    rcases List.mem_append.mp (h.perm.subset hb) with hb | hb
    · exact ha b hb
    · exact (hacross b hb).1
  | right h ih =>
    obtain ⟨ha, hys⟩ := List.pairwise_cons.mp hys
    refine List.pairwise_cons.mpr ⟨fun b hb ↦ ?_, ih hxs hys fun x hx y hy ↦ ?_⟩
    · rcases List.mem_append.mp (h.perm.subset hb) with hb | hb
      · exact (hcross b hb _ List.mem_cons_self).2
      · exact ha b hb
    · exact hcross x hx y (List.mem_cons_of_mem _ hy)

end Interleaving

end Loadout
