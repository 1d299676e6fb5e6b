import Loadout.Proofs.Selection.ByComponent

/-!
# Selecting from a selection

From the members of an independent set the selection by components selects all of them, whatever
they weigh, `ByComponent.find_ends_of_independent`.  So does the exhaustive search from the members
of what it has chosen, if weights are exact, `Exhaustive.find_ends_of_chosen`: no part of the choice
is heavier, because it was a choice before, and the first one that is considered is the whole.
-/

namespace Loadout

variable {τ α ω φ : Type} {p : α → α → Bool} {values S S' T : List α}

section Exact

variable [AddCommGroup φ] [LinearOrder φ] {weight : α → φ}

/-- Nothing is chosen that weighs nothing or less. -/
theorem chosen_eq_nil_or_total_pos (p : α → α → Bool) (weight : α → φ) (values : List α) :
    chosen p (values.map weight) values = [] ∨
      0 < total weight (chosen p (values.map weight) values) := by
  have hfirst := (Progress.foldl_consider_linear
    (choicesFrom (tableOf p values).cell (values.map weight).zipIdx ⟨0, []⟩) .start).2.2
  rw [← searchFrom_eq_foldl, ← searchAll, weight_best] at hfirst
  rcases hfirst with hstart | ⟨hpos, -⟩
  · left
    rw [chosen, hstart]
    rfl
  · exact .inr hpos

/-- If nothing is in conflict, and the whole list is heavier than nothing and as heavy as every part
of it, then all values are chosen. -/
theorem chosen_eq_self (hv : values.Nodup)
    (hlegal : ∀ a ∈ values, ∀ b ∈ values, a ≠ b → p a b = false)
    (hpos : 0 < total weight values)
    (hmax : ∀ T, T.Sublist values → total weight T ≤ total weight values) :
    chosen p (values.map weight) values = values := by
  have hpart : LegalPart p values values :=
    ⟨List.Sublist.refl _, hv.imp_of_mem fun {a b} ha hb hab ↦ hlegal b hb a ha (Ne.symm hab)⟩
  have hchosen : LegalPart p values (chosen p (values.map weight) values) :=
    chosen_legalPart (List.length_map _)
  have heq : total weight values = total weight (chosen p (values.map weight) values) :=
    le_antisymm (total_le_total_chosen weight hpart) (hmax _ hchosen.sublist)
  by_contra hne
  rcases chosen_precedesIn hv hpart heq (Ne.symm hne) with hnil | ⟨i, a, hi, -, hnot, -⟩
  · rw [heq, hnil] at hpos
    exact lt_irrefl 0 hpos
  · exact hnot (List.mem_of_getElem? hi)

/-- All members of what has been chosen are chosen again, in whatever order they come. -/
theorem chosen_of_perm_chosen (hv : values.Nodup) (hsymm : SymmetricOn p values)
    (hS : S.Perm (chosen p (values.map weight) values)) : chosen p (S.map weight) S = S := by
  have hpart : LegalPart p values (chosen p (values.map weight) values) :=
    chosen_legalPart (List.length_map _)
  have hchosen := hpart.independent hv hsymm
  have hnodup : S.Nodup := hS.nodup_iff.mpr hchosen.nodup
  rcases chosen_eq_nil_or_total_pos p weight values with hnil | hpos
  · rw [hnil] at hS
    obtain rfl := hS.eq_nil
    have hnone : LegalPart p [] (chosen p (List.map weight []) []) := chosen_legalPart rfl
    exact List.sublist_nil.mp hnone.sublist
  · refine chosen_eq_self hnodup (fun a ha b hb ↦ ?_) (by rwa [total_perm hS]) fun T hT ↦ ?_
    · exact hchosen.apart a (hS.subset ha) b (hS.subset hb)
    · have hindependent := hchosen.of_subset (hnodup.sublist hT)
        (List.Subset.trans hT.subset hS.subset)
      have hlegal := hindependent.legalPart hv
      rw [← total_perm (inOrder_perm hv hindependent.nodup hindependent.subset), total_perm hS]
      exact total_le_total_chosen weight hlegal

end Exact

namespace ByComponent

variable [BEq α] [EquivBEq α] [Zero φ] [Add φ] [LT φ] [DecidableLT φ] {labels : Labels τ α φ}
variable {limit : SizeLimit} {conflict : α → α → Call τ Bool} {weighing : Weighing τ α ω φ}
variable {fails : Failure → Prop}

/-- From the members of an independent set all are selected, in whatever order they come. -/
theorem find_ends_of_independent (hdistinct : Distinct values)
    (hconflict : ∀ a ∈ values, ∀ b ∈ values, Call.Ends (conflict a b) (· = p a b) fails)
    (hlabels : ∀ a ∈ values, Call.Ends (labels.vertex a) (fun _ ↦ True) fails)
    (hS : Independent p values S) (hperm : S'.Perm S) :
    Call.Ends (find labels limit S' conflict weighing) (·.Perm S) fails := by
  have hsub : S' ⊆ values := List.Subset.trans hperm.subset hS.subset
  have heq := (hdistinct.of_subset (hperm.nodup_iff.mpr hS.nodup) hsub).eraseDups_eq
  have hagain : Call.Ends (find labels limit S' conflict weighing) (· = S'.eraseDups) fails := by
    refine find_ends_of_unrelated (p := p) ?_ ?_ ?_ <;> rw [heq]
    · exact fun a ha b hb ↦ hconflict a (hsub ha) b (hsub hb)
    · exact fun a ha b hb ↦ hS.apart a (hperm.subset ha) b (hperm.subset hb)
    · exact fun a ha ↦ hlabels a (hsub ha)
  refine hagain.mono fun R hR ↦ ?_
  rwa [hR, heq]

end ByComponent

namespace Exhaustive

variable [BEq α] [EquivBEq α] [AddCommGroup φ] [LinearOrder φ] {labels : Labels τ α φ}
variable {vertices : List α} {conflict : α → α → Call τ Bool} {weighing : Weighing τ α ω φ}
variable {weight : α → φ} {fails : Failure → Prop}

/-- What the search has answered, it answers again when it is asked about its members only, in
whatever order they come. -/
theorem find_ends_again (hsymm : SymmetricOn p vertices.eraseDups)
    (hconflict : ∀ a ∈ vertices.eraseDups, ∀ b ∈ vertices.eraseDups,
      Call.Ends (conflict a b) (· = p a b) fails)
    (hnumber : ∀ a ∈ vertices.eraseDups, Call.Ends (weighing.number a) (· = weight a) fails)
    (hlabels : ∀ a ∈ vertices.eraseDups, Call.Ends (labels.vertex a) (fun _ ↦ True) fails) :
    Call.Ends (find labels vertices conflict weighing)
      (fun S ↦ ∀ S', S'.Perm S →
        Call.Ends (find labels S' conflict weighing) (·.Perm S) fails) fails := by
  have hdistinct := distinct_eraseDups vertices
  refine ((find_ends_chosen hconflict hnumber hlabels).and
    (find_ends_independent hconflict hsymm (fun a ha ↦ (hnumber a ha).mono fun _ _ ↦ trivial)
      hlabels)).mono fun S hS S' hperm ↦ ?_
  obtain ⟨hS, hindependent⟩ := hS
  have hsub : S' ⊆ vertices.eraseDups := List.Subset.trans hperm.subset hindependent.subset
  have heq := (hdistinct.of_subset (hperm.nodup_iff.mpr hindependent.nodup) hsub).eraseDups_eq
  have hagain : Call.Ends (find labels S' conflict weighing)
      (· = if S'.eraseDups.length < 2 then S'.eraseDups
        else chosen p (S'.eraseDups.map weight) S'.eraseDups) fails := by
    refine find_ends_chosen ?_ ?_ ?_ <;> rw [heq]
    · exact fun a ha b hb ↦ hconflict a (hsub ha) b (hsub hb)
    · exact fun a ha ↦ hnumber a (hsub ha)
    · exact fun a ha ↦ hlabels a (hsub ha)
  have hself : (if S'.length < 2 then S' else chosen p (S'.map weight) S') = S' := by
    split
    · rfl
    next hlarge =>
      split at hS
      next hsize =>
        rw [hperm.length_eq, hS] at hlarge
        exact absurd hsize hlarge
      · rw [hS] at hperm
        exact chosen_of_perm_chosen hdistinct.nodup hsymm hperm
  refine hagain.mono fun R hR ↦ ?_
  rwa [hR, heq, hself]

end Exhaustive

end Loadout
