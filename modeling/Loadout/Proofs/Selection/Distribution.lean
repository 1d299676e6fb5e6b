import Loadout.Proofs.Selection.ByComponent

/-!
# Selecting from unrelated lists

If there are no conflicts between two lists of vertices, then what is selected from a list that
interleaves them is what is selected from each of them, `ByComponent.find_interleaving`.  This does
not depend on what weights mean, nor on symmetry: the components of the interleaving list are those
of the two, in which the vertices have the same order, so that each of them is picked from alike.
-/

namespace Loadout

variable {τ α ω φ : Type} {p : α → α → Bool} {xs ys zs : List α}

/-- What is picked from an interleaving list is what is picked from the two lists. -/
theorem Interleaving.united_perm [Zero φ] [Add φ] [LT φ] [DecidableLT φ]
    (h : Interleaving xs ys zs) (hv : zs.Nodup) (hapart : Unrelated p xs ys) (number : α → φ)
    (wins : α → α → Bool) :
    (united p number wins zs).Perm (united p number wins xs ++ united p number wins ys) := by
  have hcomponents := h.componentsOf_perm hv hapart
  rw [united, united, united, ← List.flatten_append, ← List.map_append]
  exact (hcomponents.map _).flatten

/-- Lists of different values without common ones are interleaved by a list of different values. -/
theorem Interleaving.distinct [BEq α] (h : Interleaving xs ys zs) (hxs : Distinct xs)
    (hys : Distinct ys) (hcommon : ∀ x ∈ xs, ∀ y ∈ ys, (x == y) = false ∧ (y == x) = false) :
    Distinct zs :=
  h.pairwise hxs hys fun x hx y hy ↦ (hcommon x hx y hy).symm

namespace Sample

/-- Even vertices. -/
def evens : List Nat := [4, 2, 0, 6, 8]

/-- Odd vertices. -/
def odds : List Nat := [1, 5]

/-- The even and the odd vertices, interleaved. -/
def numbers : List Nat := [4, 1, 2, 5, 0, 6, 8]

/-- A vertex is in conflict with vertices of the same parity that exceed it by four at most, but not
they with it. -/
def exceeded (a b : Nat) : Bool :=
  a % 2 == b % 2 && a < b && b ≤ a + 4

/-- Weights that cannot be added up exactly. -/
def tenths (a : Nat) : Float :=
  a.toFloat / 10

end Sample

namespace ByComponent

variable [BEq α] [ReflBEq α] [Zero φ] [Add φ] [LT φ] [DecidableLT φ]
variable {labels : Labels τ α φ} {limit : SizeLimit} {conflict : α → α → Call τ Bool}
variable {weighing : Weighing τ α ω φ} {number : α → φ} {wins : α → α → Bool}
variable {fails : Failure → Prop}

/-- From a list that interleaves two lists without conflicts between them, the same is selected as
from the two, ties included.  Where a vertex cannot be printed, a run may fail as printing it
does. -/
theorem find_interleaving (hxs : Distinct xs) (hys : Distinct ys)
    (hcommon : ∀ x ∈ xs, ∀ y ∈ ys, (x == y) = false ∧ (y == x) = false)
    (hzs : Interleaving xs ys zs)
    (hconflict : ∀ a ∈ zs, ∀ b ∈ zs, Call.Ends (conflict a b) (· = p a b) fails)
    (hapart : ∀ x ∈ xs, ∀ y ∈ ys, p x y = false ∧ p y x = false)
    (hnumber : ∀ a ∈ zs, Call.Ends (weighing.number a) (· = number a) fails)
    (hcompare : ∀ a ∈ zs, ∀ b ∈ zs, Call.Ends (weighing.compare a b) (· = wins a b) fails)
    (hlabels : ∀ a ∈ zs, Call.Ends (labels.vertex a) (fun _ ↦ True) fails)
    (hlimit : ∀ n e, limit.exceededBy n = .error e → fails e) :
    ∃ S T U : List α, U.Perm (S ++ T) ∧
      Call.Ends (find labels limit xs conflict weighing) (· = S) fails ∧
      Call.Ends (find labels limit ys conflict weighing) (· = T) fails ∧
      Call.Ends (find labels limit zs conflict weighing) (· = U) fails := by
  have hdistinct := hzs.distinct hxs hys hcommon
  have hunited : ∀ part, Distinct part → part ⊆ zs →
      Call.Ends (find labels limit part conflict weighing) (· = united p number wins part)
        fails := by
    intro part hpart hsub
    have hmem : ∀ a ∈ part.eraseDups, a ∈ zs := fun a ha ↦ hsub ((eraseDups_sublist part).subset ha)
    have h := find_ends_united (fun a ha b hb ↦ hconflict a (hmem a ha) b (hmem b hb))
      (fun a ha ↦ hnumber a (hmem a ha)) (fun a ha b hb ↦ hcompare a (hmem a ha) b (hmem b hb))
      (fun a ha ↦ hlabels a (hmem a ha)) hlimit
    rwa [hpart.eraseDups_eq] at h
  refine ⟨_, _, _, hzs.united_perm hdistinct.nodup hapart number wins,
    hunited xs hxs fun x hx ↦ ?_, hunited ys hys fun y hy ↦ ?_,
    hunited zs hdistinct (List.Subset.refl _)⟩
  · exact hzs.perm.symm.subset (List.mem_append_left _ hx)
  · exact hzs.perm.symm.subset (List.mem_append_right _ hy)

theorem find_interleaving_sample :
    (Distinct Sample.evens ∧ Distinct Sample.odds ∧
      (∀ x ∈ Sample.evens, ∀ y ∈ Sample.odds, (x == y) = false ∧ (y == x) = false) ∧
      Interleaving Sample.evens Sample.odds Sample.numbers ∧
      ∀ x ∈ Sample.evens, ∀ y ∈ Sample.odds,
        Sample.exceeded x y = false ∧ Sample.exceeded y x = false) ∧
    ∃ S T U : List Nat, U.Perm (S ++ T) ∧
      Call.Ends
        (find ⟨fun v ↦ pure (toString v), toString⟩ (.ofInt 2) Sample.evens
          (fun a b ↦ (pure (Sample.exceeded a b) : Call Unit Bool)) (.known Sample.tenths))
        (· = S) (fun _ ↦ False) ∧
      Call.Ends
        (find ⟨fun v ↦ pure (toString v), toString⟩ (.ofInt 2) Sample.odds
          (fun a b ↦ (pure (Sample.exceeded a b) : Call Unit Bool)) (.known Sample.tenths))
        (· = T) (fun _ ↦ False) ∧
      Call.Ends
        (find ⟨fun v ↦ pure (toString v), toString⟩ (.ofInt 2) Sample.numbers
          (fun a b ↦ (pure (Sample.exceeded a b) : Call Unit Bool)) (.known Sample.tenths))
        (· = U) fun _ ↦ False := by
  have hevens : Distinct Sample.evens := by decide
  have hodds : Distinct Sample.odds := by decide
  have hinterleaved : Interleaving Sample.evens Sample.odds Sample.numbers :=
    .left (.right (.left (.right (.left (.left (.left .nil))))))
  exact ⟨⟨hevens, hodds, by decide, hinterleaved, by decide⟩,
    find_interleaving hevens hodds (by decide) hinterleaved (fun _ _ _ _ ↦ .pure rfl) (by decide)
      (fun _ _ ↦ .pure rfl) (fun _ _ _ _ ↦ .pure rfl) (fun _ _ ↦ .pure trivial)
      SizeLimit.exceededBy_two_ne_error⟩

end ByComponent

end Loadout
