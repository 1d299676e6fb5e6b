import Loadout.Proofs.Graph.Peeling
import Loadout.Proofs.Selection.Exhaustive
import Mathlib.Data.Set.Card

/-!
# Selections from components

What is selected from a component depends on its size: a single value, the winner of two, or what
the exhaustive search chooses.  Whatever weights mean, these selections make an independent set,
`independent_united`.  If weights are exact this is the `solution`, and no independent set is
heavier that has a value in every component of one or two values, `total_le_total_solution`.  If
these components have something worth selecting, and every value weighs something, then the solution
is what the exhaustive search chooses from all values together, `solution_perm_chosen`.
-/

namespace Loadout

variable {α φ : Type} {p : α → α → Bool} {values c T : List α}

/-! ## Components and their sizes -/

theorem exists_mem_componentsOf {a : α} (ha : a ∈ values) : ∃ c ∈ componentsOf p values, a ∈ c :=
  List.mem_flatten.mp ((flatten_componentsOf p values).mem_iff.mpr ha)

theorem nodup_of_mem_componentsOf (hv : values.Nodup) (hc : c ∈ componentsOf p values) : c.Nodup :=
  hv.sublist (sublist_of_mem_componentsOf hc)

theorem SymmetricOn.encard_componentOf (hsymm : SymmetricOn p values) (hv : values.Nodup)
    (hc : c ∈ componentsOf p values) {a : α} (ha : a ∈ c) :
    (componentOf p values a).encard = c.length := by
  classical
  have hset : componentOf p values a = (c.toFinset : Set α) := by
    ext b
    rw [← hsymm.mem_component_iff hv hc ha b]
    simp
  rw [hset, Set.encard_coe_eq_coe_finsetCard,
    List.toFinset_card_of_nodup (nodup_of_mem_componentsOf hv hc)]

/-- Two values that make a component are in conflict. -/
theorem SymmetricOn.related_of_pair (hsymm : SymmetricOn p values) (hv : values.Nodup) {v w : α}
    (hc : [v, w] ∈ componentsOf p values) : p w v = true := by
  have hmem := hsymm.mem_component_iff hv hc (a := v) (by simp)
  have hne : v ≠ w := by
    have hnodup := nodup_of_mem_componentsOf hv hc
    simpa using hnodup
  have hw : w ∈ componentOf p values v := (hmem w).mp (by simp)
  rcases Relation.ReflTransGen.cases_head hw with heq | ⟨x, hx, -⟩
  · exact absurd heq hne
  · have hxc : x ∈ [v, w] := (hmem x).mpr (Relation.ReflTransGen.single hx)
    obtain ⟨-, -, hvx, hp⟩ := hx
    have hxw : x = w := by
      rcases List.mem_cons.mp hxc with heq | hxw
      · exact absurd heq.symm hvx
      · exact List.mem_singleton.mp hxw
    subst hxw
    have hpair : SymmetricOn p [v, x] := hsymm.sublist (sublist_of_mem_componentsOf hc)
    have hswap : p v x = p x v := by
      have h := List.pairwise_cons.mp hpair
      exact h.1 x (by simp)
    rw [← hswap, hp]

/-- Legal parts of the components make an independent set. -/
theorem SymmetricOn.independent_flatten (hsymm : SymmetricOn p values) (hv : values.Nodup)
    {parts : List (List α)} (h : List.Forall₂ (LegalPart p) (componentsOf p values) parts) :
    Independent p values parts.flatten :=
  independent_of_legalParts (flatten_componentsOf p values) hv
    (fun _ hc ↦ sublist_of_mem_componentsOf hc) hsymm hsymm.pairwise_componentsOf h

/-! ## One component -/

theorem LegalPart.eq_of_singleton {v : α} (h : LegalPart p [v] T) : T = [] ∨ T = [v] := by
  rcases List.sublist_cons_iff.mp h.sublist with hT | ⟨S, rfl, hS⟩
  · exact .inl (List.sublist_nil.mp hT)
  · obtain rfl := List.sublist_nil.mp hS
    exact .inr rfl

theorem LegalPart.eq_of_pair {v w : α} (h : LegalPart p [v, w] T) (hp : p w v = true) :
    T = [] ∨ T = [v] ∨ T = [w] := by
  rcases List.sublist_cons_iff.mp h.sublist with hT | ⟨S, rfl, hS⟩
  · have hw : LegalPart p [w] T := ⟨hT, h.legal⟩
    exact hw.eq_of_singleton.imp_right .inr
  · rcases List.sublist_cons_iff.mp hS with hS | ⟨R, rfl, hR⟩
    · obtain rfl := List.sublist_nil.mp hS
      exact .inr (.inl rfl)
    · have hlegal := (List.pairwise_cons.mp h.legal).1 w List.mem_cons_self
      rw [hp] at hlegal
      exact Bool.noConfusion hlegal

section Pick

variable [Zero φ] [Add φ] [LT φ] [DecidableLT φ] {number : α → φ} {wins : α → α → Bool}

/-- What is selected from a component, given what its values weigh as numbers and which of two
wins. -/
def pick (p : α → α → Bool) (number : α → φ) (wins : α → α → Bool) : List α → List α
  | [] => []
  | [v] => [v]
  | [v, w] => [if wins v w then v else w]
  | c => chosen p (c.map number) c

theorem pick_legalPart (p : α → α → Bool) (number : α → φ) (wins : α → α → Bool) (c : List α) :
    LegalPart p c (pick p number wins c) := by
  match c with
  | [] => exact legalPart_nil p []
  | [v] => exact legalPart_singleton (by simp)
  | [v, w] =>
    refine legalPart_singleton ?_
    split <;> simp
  | u :: v :: w :: rest => exact chosen_legalPart (List.length_map _)

theorem pick_of_three_le (h : 3 ≤ c.length) : pick p number wins c = chosen p (c.map number) c := by
  match c with
  | u :: v :: w :: rest => rfl
  | [] | [_] | [_, _] => simp at h

/-- The selections from all components. -/
def united (p : α → α → Bool) (number : α → φ) (wins : α → α → Bool) (values : List α) : List α :=
  ((componentsOf p values).map (pick p number wins)).flatten

/-- Fewer than two values are all selected. -/
theorem united_of_length_lt_two (h : values.length < 2) : united p number wins values = values := by
  match values with
  | [] => rw [united, componentsOf_nil, List.map_nil, List.flatten_nil]
  | [v] =>
    rw [united, componentsOf_of_unrelated (List.nodup_singleton v) (by simp)]
    rfl
  | v :: w :: rest => exact absurd h (by simp)

/-- Whatever weights mean, the selections from all components can be made together. -/
theorem independent_united (number : α → φ) (wins : α → α → Bool) (hv : values.Nodup)
    (hsymm : SymmetricOn p values) : Independent p values (united p number wins values) :=
  hsymm.independent_flatten hv
    (List.forall₂_map_right_iff.mpr
      (List.forall₂_same.mpr fun c _ ↦ pick_legalPart p number wins c))

end Pick

section Selected

variable [AddCommGroup φ] [LinearOrder φ]

/-- What is selected from a component. -/
def selected (p : α → α → Bool) (weight : α → φ) : List α → List α
  | [] => []
  | [v] => [v]
  | [v, w] => [if weight w ≤ weight v then v else w]
  | c => chosen p (c.map weight) c

variable {weight : α → φ}

/-- With exact weights, the heavier of two values wins, the first if they weigh the same. -/
theorem selected_eq_pick (p : α → α → Bool) (weight : α → φ) :
    selected p weight = pick p weight fun v w ↦ decide (weight w ≤ weight v) := by
  funext c
  match c with
  | [] | [_] | _ :: _ :: _ :: _ => rfl
  | [v, w] => simp [selected, pick]

theorem selected_legalPart (p : α → α → Bool) (weight : α → φ) (c : List α) :
    LegalPart p c (selected p weight c) := by
  rw [selected_eq_pick]
  exact pick_legalPart p weight _ c

theorem selected_of_three_le (h : 3 ≤ c.length) :
    selected p weight c = chosen p (c.map weight) c := by
  rw [selected_eq_pick, pick_of_three_le h]

/-- No legal part of a component is heavier than what is selected, except perhaps the empty one. -/
theorem total_le_total_selected (hpair : ∀ v w, c = [v, w] → p w v = true)
    (hT : LegalPart p c T) (hempty : T = [] → 0 ≤ total weight (selected p weight c)) :
    total weight T ≤ total weight (selected p weight c) := by
  match c with
  | [] =>
    obtain rfl := List.sublist_nil.mp hT.sublist
    exact le_rfl
  | [v] =>
    rcases hT.eq_of_singleton with rfl | rfl
    · exact hempty rfl
    · exact le_rfl
  | [v, w] =>
    rcases hT.eq_of_pair (hpair v w rfl) with rfl | rfl | rfl
    · exact hempty rfl
    · simp only [selected, total_cons, total_nil, add_zero]
      split
      · exact le_rfl
      next h => exact le_of_lt (not_le.mp h)
    · simp only [selected, total_cons, total_nil, add_zero]
      split
      next h => exact h
      · exact le_rfl
  | u :: v :: w :: rest => exact total_le_total_chosen weight hT

/-- If something is worth selecting from a component, what is selected weighs something. -/
theorem total_selected_pos (hpair : ∀ v w, c = [v, w] → p w v = true)
    (hpos : ∃ a ∈ c, 0 < weight a) : 0 < total weight (selected p weight c) := by
  obtain ⟨a, ha, hpos⟩ := hpos
  have hle : total weight [a] ≤ total weight (selected p weight c) :=
    total_le_total_selected hpair (legalPart_singleton ha) (by simp)
  rw [total_cons, total_nil, add_zero] at hle
  exact lt_of_lt_of_le hpos hle

/-- Of a pair, the value that is selected precedes the other one if that is as heavy. -/
theorem precedesIn_selected_pair {v w : α} (hvw : v ≠ w) (hp : p w v = true)
    (hT : LegalPart p [v, w] T) (hnil : T ≠ [])
    (heq : total weight T = total weight (selected p weight [v, w]))
    (hne : T ≠ selected p weight [v, w]) : PrecedesIn [v, w] (selected p weight [v, w]) T := by
  by_cases hle : weight w ≤ weight v
  · have hselected : selected p weight [v, w] = [v] := by rw [selected, if_pos hle]
    rw [hselected] at hne ⊢
    rcases hT.eq_of_pair hp with rfl | rfl | rfl
    · exact absurd rfl hnil
    · exact absurd rfl hne
    · exact ⟨0, v, rfl, by simp, by simpa using hvw, by simp⟩
  · have hselected : selected p weight [v, w] = [w] := by rw [selected, if_neg hle]
    rw [hselected] at heq hne
    rcases hT.eq_of_pair hp with rfl | rfl | rfl
    · exact absurd rfl hnil
    · simp only [total_cons, total_nil, add_zero] at heq
      exact absurd (le_of_eq heq.symm) hle
    · exact absurd rfl hne

variable [IsOrderedAddMonoid φ]

theorem total_nonneg (h : ∀ a ∈ T, 0 ≤ weight a) : 0 ≤ total weight T := by
  refine List.sum_nonneg fun x hx ↦ ?_
  obtain ⟨a, ha, rfl⟩ := List.mem_map.mp hx
  exact h a ha

/-- From a component in which something is worth selecting the first of the heaviest legal parts is
selected, if every value weighs something. -/
theorem firstHeaviest_selected (hc : c.Nodup) (hpair : ∀ v w, c = [v, w] → p w v = true)
    (hzero : ∀ a ∈ c, weight a ≠ 0) (hpos : c.length ≤ 2 → ∃ a ∈ c, 0 < weight a) :
    FirstHeaviest p weight c (selected p weight c) := by
  by_cases htwo : c.length ≤ 2
  · have hmax := total_selected_pos hpair (hpos htwo)
    refine ⟨selected_legalPart p weight c,
      fun T hT ↦ total_le_total_selected hpair hT fun _ ↦ le_of_lt hmax, fun T hT heq hne ↦ ?_⟩
    have hnil : T ≠ [] := by
      rintro rfl
      exact absurd heq (ne_of_lt hmax)
    match c with
    | [] => exact absurd (List.sublist_nil.mp hT.sublist) hnil
    | [v] =>
      rcases hT.eq_of_singleton with rfl | rfl
      · exact absurd rfl hnil
      · exact absurd rfl hne
    | [v, w] => exact precedesIn_selected_pair (by simpa using hc) (hpair v w rfl) hT hnil heq hne
  · rw [selected_of_three_le (Nat.not_le.mp htwo)]
    exact firstHeaviest_chosen hc hzero

end Selected

/-! ## All components -/

section Solution

variable [AddCommGroup φ] [LinearOrder φ] {weight : α → φ}

/-- The selections from all components. -/
def solution (p : α → α → Bool) (weight : α → φ) (values : List α) : List α :=
  ((componentsOf p values).map (selected p weight)).flatten

theorem solution_eq_united (p : α → α → Bool) (weight : α → φ) (values : List α) :
    solution p weight values = united p weight (fun v w ↦ decide (weight w ≤ weight v)) values := by
  rw [solution, selected_eq_pick, united]

theorem forall₂_selected {Q : List α → List α → Prop}
    (h : ∀ c ∈ componentsOf p values, Q c (selected p weight c)) :
    List.Forall₂ Q (componentsOf p values) ((componentsOf p values).map (selected p weight)) :=
  List.forall₂_map_right_iff.mpr (List.forall₂_same.mpr h)

theorem independent_solution (weight : α → φ) (hv : values.Nodup) (hsymm : SymmetricOn p values) :
    Independent p values (solution p weight values) := by
  rw [solution_eq_united]
  exact independent_united weight _ hv hsymm

/-- Of a component, the solution has what is selected from it. -/
theorem mem_solution_iff (hv : values.Nodup) (hc : c ∈ componentsOf p values) {a : α} (ha : a ∈ c) :
    a ∈ solution p weight values ↔ a ∈ selected p weight c := by
  have hnodup := (flatten_componentsOf p values).nodup_iff.mpr hv
  have h := forall₂_inOrder_flatten hnodup
    (forall₂_selected fun c _ ↦ (selected_legalPart p weight c).sublist)
  rw [List.forall₂_map_right_iff, List.forall₂_same] at h
  rw [← h c hc, mem_inOrder, solution]
  exact (and_iff_right ha).symm

/-- A single value without conflicts is selected. -/
theorem mem_solution_of_isolated (hv : values.Nodup) (hsymm : SymmetricOn p values) {v : α}
    (hmem : v ∈ values) (h : componentOf p values v = {v}) : v ∈ solution p weight values := by
  obtain ⟨c, hc, hvc⟩ := exists_mem_componentsOf (p := p) hmem
  have hlength := hsymm.encard_componentOf hv hc hvc
  rw [h, Set.encard_singleton] at hlength
  have hone : c.length = 1 := by exact_mod_cast hlength.symm
  obtain ⟨a, rfl⟩ := List.length_eq_one_iff.mp hone
  exact (mem_solution_iff hv hc hvc).mpr hvc

/-- Of two values that are in conflict with each other only, one is selected. -/
theorem mem_solution_iff_of_pair (hv : values.Nodup) (hsymm : SymmetricOn p values) {v w : α}
    (hmem : v ∈ values) (hne : v ≠ w) (h : componentOf p values v = {v, w}) :
    v ∈ solution p weight values ↔ w ∉ solution p weight values := by
  obtain ⟨c, hc, hvc⟩ := exists_mem_componentsOf (p := p) hmem
  have hlength := hsymm.encard_componentOf hv hc hvc
  have hwc : w ∈ c := (hsymm.mem_component_iff hv hc hvc w).mpr (by rw [h]; simp)
  rw [h, Set.encard_pair hne] at hlength
  have htwo : c.length = 2 := by exact_mod_cast hlength.symm
  obtain ⟨a, b, rfl⟩ := List.length_eq_two.mp htwo
  rw [mem_solution_iff hv hc hvc, mem_solution_iff hv hc hwc]
  have hab : a ≠ b := by simpa using nodup_of_mem_componentsOf hv hc
  simp only [List.mem_cons, List.not_mem_nil, or_false] at hvc hwc
  rcases hvc with rfl | rfl <;> rcases hwc with rfl | rfl
  · exact absurd rfl hne
  · simp only [selected, List.mem_singleton]
    split
    · simp [hab.symm]
    · simp [hab]
  · simp only [selected, List.mem_singleton]
    split
    · simp [hab.symm]
    · simp [hab]
  · exact absurd rfl hne

variable [IsOrderedAddMonoid φ]

/-- A solution is as heavy as every independent set that leaves no component of one or two values
out, unless there what is selected weighs something at least. -/
theorem total_le_total_solution (hv : values.Nodup) (hsymm : SymmetricOn p values)
    (hT : Independent p values T)
    (hempty : ∀ c ∈ componentsOf p values, c.length < 3 → (∀ a ∈ c, a ∉ T) →
      0 ≤ total weight (selected p weight c)) :
    total weight T ≤ total weight (solution p weight values) := by
  have hperm := flatten_componentsOf p values
  rw [total_eq_sum hperm hv hT.nodup hT.subset]
  refine sum_le_sum_of_forall₂ (forall₂_selected fun c hc ↦ ?_)
  have hsub := sublist_of_mem_componentsOf hc
  have hlegal : LegalPart p c (inOrder c T) := by
    have h := (hT.legalPart hv).inOrder hv hsub
    rwa [inOrder_congr fun a ha ↦ mem_inOrder.trans (and_iff_right (hsub.subset ha))] at h
  refine total_le_total_selected (fun v w heq ↦ hsymm.related_of_pair hv (heq ▸ hc)) hlegal ?_
  intro hnil
  by_cases hthree : c.length < 3
  · refine hempty c hc hthree fun a ha haT ↦ ?_
    have hmem : a ∈ inOrder c T := mem_inOrder.mpr ⟨ha, haT⟩
    rw [hnil] at hmem
    exact absurd hmem List.not_mem_nil
  · rw [selected_of_three_le (Nat.not_lt.mp hthree)]
    exact total_le_total_chosen weight (legalPart_nil p c)

/-- No independent set is heavier that has a value in every component of one or two values. -/
theorem total_le_total_solution_of_meets (hv : values.Nodup) (hsymm : SymmetricOn p values)
    (hT : Independent p values T)
    (hmeets : ∀ v ∈ values, (componentOf p values v).encard < 3 →
      ∃ w ∈ T, w ∈ componentOf p values v) :
    total weight T ≤ total weight (solution p weight values) := by
  refine total_le_total_solution hv hsymm hT fun c hc hthree hnone ↦ ?_
  exfalso
  obtain ⟨a, ha⟩ := List.exists_mem_of_ne_nil c (ne_nil_of_mem_componentsOf hc)
  have hcard : (componentOf p values a).encard < 3 := by
    rw [hsymm.encard_componentOf hv hc ha]
    exact_mod_cast hthree
  obtain ⟨w, hwT, hw⟩ := hmeets a ((sublist_of_mem_componentsOf hc).subset ha) hcard
  exact hnone w ((hsymm.mem_component_iff hv hc ha w).mpr hw) hwT

/-- If no value has a negative weight, no independent set is heavier. -/
theorem total_le_total_solution_of_nonneg (hv : values.Nodup) (hsymm : SymmetricOn p values)
    (hweight : ∀ v ∈ values, 0 ≤ weight v) (hT : Independent p values T) :
    total weight T ≤ total weight (solution p weight values) := by
  refine total_le_total_solution hv hsymm hT fun c hc _ _ ↦ total_nonneg fun a ha ↦ ?_
  have hsub := (selected_legalPart p weight c).sublist.trans (sublist_of_mem_componentsOf hc)
  exact hweight a (hsub.subset ha)

/-- If every value weighs something, and one value in every component of one or two is positive,
then the selections from the components are what is selected from all values together. -/
theorem solution_perm_chosen (hv : values.Nodup) (hsymm : SymmetricOn p values)
    (hzero : ∀ v ∈ values, weight v ≠ 0)
    (hpos : ∀ v ∈ values, (componentOf p values v).encard ≤ 2 →
      ∃ w ∈ componentOf p values v, 0 < weight w) :
    (solution p weight values).Perm (chosen p (values.map weight) values) := by
  have hfirst : List.Forall₂ (FirstHeaviest p weight) (componentsOf p values)
      ((componentsOf p values).map (selected p weight)) := by
    refine forall₂_selected fun c hc ↦ ?_
    have hsub := sublist_of_mem_componentsOf hc
    refine firstHeaviest_selected (hv.sublist hsub)
      (fun v w heq ↦ hsymm.related_of_pair hv (heq ▸ hc)) (fun a ha ↦ hzero a (hsub.subset ha)) ?_
    intro htwo
    obtain ⟨a, ha⟩ := List.exists_mem_of_ne_nil c (ne_nil_of_mem_componentsOf hc)
    have hcard : (componentOf p values a).encard ≤ 2 := by
      rw [hsymm.encard_componentOf hv hc ha]
      exact_mod_cast htwo
    obtain ⟨w, hw, hpos⟩ := hpos a (hsub.subset ha) hcard
    exact ⟨w, (hsymm.mem_component_iff hv hc ha w).mpr hw, hpos⟩
  have hall := firstHeaviest_of_components (flatten_componentsOf p values) hv
    (fun _ hc ↦ sublist_of_mem_componentsOf hc) hsymm hsymm.pairwise_componentsOf hfirst
  rw [← hall.eq (firstHeaviest_chosen hv hzero)]
  have hsolution := independent_solution weight hv hsymm
  exact (inOrder_perm hv hsolution.nodup hsolution.subset).symm

end Solution

end Loadout
