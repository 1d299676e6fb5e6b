import Loadout.Proofs.Graph.Partition
import Loadout.Proofs.Interleaving

/-!
# Components one after the other

The components of a list of values can be taken off one by one: the first one holds what the first
value reaches, and the others are the components of the values that are left, `componentsOf_cons`.
So two lists without conflicts between them have the components of any list that interleaves them,
`Interleaving.componentsOf_perm`, and values without conflicts are components of their own,
`componentsOf_of_unrelated`.  Symmetry is not needed for any of this.
-/

namespace Loadout

open Relation

variable {α : Type} {p : α → α → Bool} {values part : List α} {a b : α}

/-! ## What a value reaches in a part of a list -/

theorem Joined.mono (hsub : part ⊆ values) (h : Joined p part a b) : Joined p values a b :=
  ⟨hsub h.1, hsub h.2.1, h.2.2⟩

theorem mem_of_mem_componentOf (ha : a ∈ values) (hb : b ∈ componentOf p values a) :
    b ∈ values := by
  cases hb with
  | refl => exact ha
  | tail _ hbc => exact hbc.2.1

theorem componentOf_mono (hsub : part ⊆ values) : componentOf p part a ⊆ componentOf p values a :=
  fun _ h ↦ ReflTransGen.mono (fun _ _ ↦ Joined.mono hsub) _ _ h

/-- A part into which nothing leads is reached as if it were the whole list. -/
theorem mem_componentOf_part_iff (hsub : part ⊆ values)
    (hback : ∀ x y, Joined p values x y → y ∈ part → x ∈ part) (hb : b ∈ part) :
    b ∈ componentOf p part a ↔ b ∈ componentOf p values a := by
  constructor
  · intro h
    exact componentOf_mono hsub h
  · intro h
    induction h with
    | refl => exact .refl
    | tail _ hcb ih => exact (ih (hback _ _ hcb hb)).tail ⟨hback _ _ hcb hb, hb, hcb.2.2⟩

/-- What is reached from a part out of which nothing leads is reached within the part. -/
theorem componentOf_eq_of_closed (hsub : part ⊆ values)
    (hforward : ∀ x y, Joined p values x y → x ∈ part → y ∈ part) (ha : a ∈ part) :
    componentOf p values a = componentOf p part a := by
  ext b
  constructor
  · intro h
    induction h with
    | refl => exact .refl
    | tail _ hbc ih =>
      have hb := mem_of_mem_componentOf ha ih
      exact ih.tail ⟨hb, hforward _ _ hbc hb, hbc.2.2⟩
  · intro h
    exact componentOf_mono hsub h

/-! ## Taking off the first component -/

open Classical in
/-- The components of a list of values, one after the other: what the first value reaches, and then
the components of what it does not reach. -/
noncomputable def peel (p : α → α → Bool) : List α → List (List α)
  | [] => []
  | a :: rest =>
    (a :: rest).filter (· ∈ componentOf p (a :: rest) a) ::
      peel p (rest.filter (· ∉ componentOf p (a :: rest) a))
termination_by values => values.length
decreasing_by
  rw [List.length_unattach, List.length_cons, Nat.lt_succ_iff]
  exact (List.length_filter_le ..).trans_eq List.length_attach

theorem valuesAt_filter {places : List Nat} {q : Nat → Bool} {r : α → Bool}
    (h : ∀ i ∈ places, ∀ b, values[i]? = some b → q i = r b) :
    valuesAt values (places.filter q) = (valuesAt values places).filter r := by
  rw [valuesAt, valuesAt, List.filterMap_filter, List.filter_filterMap]
  refine List.filterMap_congr fun i hi ↦ ?_
  cases hb : values[i]? with
  | none => simp
  | some b => simp [h i hi b hb, Option.filter]

open Classical in
/-- The places of a list that have not been seen. -/
noncomputable def unseen (values : List α) (seen : Set Nat) : List Nat :=
  (List.range values.length).filter (· ∉ seen)

theorem mem_unseen {seen : Set Nat} {i : Nat} :
    i ∈ unseen values seen ↔ i < values.length ∧ i ∉ seen := by
  simp [unseen]

theorem pairwise_unseen (values : List α) (seen : Set Nat) :
    (unseen values seen).Pairwise (· < ·) :=
  List.pairwise_lt_range.sublist List.filter_sublist

/-- A value at a place that has not been seen is reached from the first such value among the values
that have not been seen, if nothing leads out of what has been seen. -/
theorem mem_componentOf_unseen_iff (hv : values.Nodup) {seen : Set Nat}
    (hclosed : (tableOf p values).Closed seen) {start i : Nat}
    (hstart : values[start]? = some a) (hi : values[i]? = some b) (hfresh : i ∉ seen) :
    b ∈ componentOf p (valuesAt values (unseen values seen)) a ↔
      (tableOf p values).Reaches start i := by
  have hplace : ∀ {k x}, values[k]? = some x →
      (x ∈ valuesAt values (unseen values seen) ↔ k ∉ seen) := by
    intro k x hk
    have hlt := (List.getElem?_eq_some_iff.mp hk).1
    constructor
    · intro hx
      obtain ⟨j, hj, hjx⟩ := mem_valuesAt.mp hx
      obtain ⟨hj', hjx⟩ := List.getElem?_eq_some_iff.mp hjx
      have hjk : j = k := hv.getElem_inj_iff.mp (hjx.trans (List.getElem?_eq_some_iff.mp hk).2.symm)
      exact hjk ▸ (mem_unseen.mp hj).2
    · intro hk'
      exact mem_valuesAt.mpr ⟨k, mem_unseen.mpr ⟨hlt, hk'⟩, hk⟩
  have hsub : valuesAt values (unseen values seen) ⊆ values := by
    intro x hx
    obtain ⟨j, -, hjx⟩ := mem_valuesAt.mp hx
    exact List.mem_of_getElem? hjx
  rw [mem_componentOf_part_iff hsub ?_ ((hplace hi).mpr hfresh)]
  · constructor
    · intro hb
      obtain ⟨j, hj, hr⟩ := reaches_of_mem_componentOf hstart hb
      have hji : j = i := by
        obtain ⟨hj', hjb⟩ := List.getElem?_eq_some_iff.mp hj
        obtain ⟨hi', hib⟩ := List.getElem?_eq_some_iff.mp hi
        exact hv.getElem_inj_iff.mp (hjb.trans hib.symm)
      exact hji ▸ hr
    · intro hr
      exact mem_componentOf_of_reaches hv hstart hi hr
  · intro x y hxy hy
    obtain ⟨k, hk⟩ := List.mem_iff_getElem?.mp hxy.1
    obtain ⟨l, hl⟩ := List.mem_iff_getElem?.mp hxy.2.1
    have hkl : k ≠ l := by
      rintro rfl
      exact hxy.2.2.1 (Option.some.inj (hk.symm.trans hl))
    rw [hplace hl] at hy
    rw [hplace hk]
    intro hseen
    exact hy (hclosed k hseen l ((edge_tableOf hk hl).mpr ⟨hkl, hxy.2.2.2⟩))

/-- What is left to decompose is peeled off the values that have not been seen. -/
theorem Table.Decomposed.map_valuesAt (hv : values.Nodup) {seen : Set Nat} {cs : List (List Nat)}
    (h : (tableOf p values).Decomposed values.length seen cs)
    (hclosed : (tableOf p values).Closed seen) :
    cs.map (valuesAt values) = peel p (valuesAt values (unseen values seen)) := by
  classical
  induction h with
  | @nil seen hall =>
    have hnil : unseen values seen = [] := List.eq_nil_iff_forall_not_mem.mpr fun i hi ↦
      (mem_unseen.mp hi).2 (hall i (mem_unseen.mp hi).1)
    rw [hnil]
    simp [valuesAt, peel]
  | @cons seen start c cs hlt hfresh hbefore hsorted hmem hcs ih =>
    -- The places of the component, of the values after its first one, and of what is left.
    have hc : c = (unseen values seen).filter ((tableOf p values).Reaches start ·) := by
      refine hsorted.eq_of_mem_iff ((pairwise_unseen values seen).filter _) fun i ↦ ?_
      have hbound := (square_tableOf p values).lt_of_reaches (j := i) hlt
      simp only [hmem, List.mem_filter, mem_unseen, decide_eq_true_eq]
      tauto
    obtain ⟨later, hfirst⟩ : ∃ later, unseen values seen = start :: later := by
      refine ⟨(unseen values seen).filter (start < ·), ?_⟩
      refine (pairwise_unseen values seen).eq_of_mem_iff ?_ fun i ↦ ?_
      · refine List.pairwise_cons.mpr ⟨fun i hi ↦ ?_, (pairwise_unseen values seen).filter _⟩
        simpa using List.of_mem_filter hi
      · have hleast : i ∉ seen → i ≠ start → start < i := by
          intro hi hne
          rcases Nat.lt_trichotomy i start with hless | heq | hgreater
          · exact absurd (hbefore i hless) hi
          · exact absurd heq hne
          · exact hgreater
        simp only [mem_unseen, List.mem_cons, List.mem_filter, decide_eq_true_eq]
        constructor
        · rintro ⟨hi, hunseen⟩
          by_cases heq : i = start
          · exact .inl heq
          · exact .inr ⟨⟨hi, hunseen⟩, hleast hunseen heq⟩
        · rintro (rfl | ⟨hi, -⟩)
          · exact ⟨hlt, hfresh⟩
          · exact hi
    have hleft : unseen values (seen ∪ {i | i ∈ c}) =
        (unseen values seen).filter (¬ (tableOf p values).Reaches start ·) := by
      refine (pairwise_unseen values _).eq_of_mem_iff ((pairwise_unseen values seen).filter _)
        fun i ↦ ?_
      simp only [mem_unseen, List.mem_filter, Set.mem_union, Set.mem_ofPred_eq, hmem,
        decide_eq_true_eq]
      tauto
    obtain ⟨a, ha⟩ : ∃ a, values[start]? = some a := ⟨_, List.getElem?_eq_getElem hlt⟩
    set V := valuesAt values (unseen values seen) with hV
    have hreach : ∀ i ∈ unseen values seen, ∀ b, values[i]? = some b →
        (b ∈ componentOf p V a ↔ (tableOf p values).Reaches start i) :=
      fun i hi b hb ↦ mem_componentOf_unseen_iff hv hclosed ha hb (mem_unseen.mp hi).2
    have hcons : V = a :: valuesAt values later := by
      rw [hV, hfirst, valuesAt, List.filterMap_cons_some ha, valuesAt]
    have hhead : valuesAt values c = V.filter (· ∈ componentOf p V a) := by
      rw [hc]
      exact valuesAt_filter fun i hi b hb ↦ by simp [hreach i hi b hb]
    have htail : valuesAt values (unseen values (seen ∪ {i | i ∈ c})) =
        (valuesAt values later).filter (· ∉ componentOf p V a) := by
      rw [hleft, hfirst, List.filter_cons_of_neg (by simp [ReflTransGen.refl])]
      refine valuesAt_filter fun i hi b hb ↦ ?_
      simp [hreach i (hfirst ▸ List.mem_cons_of_mem _ hi) b hb]
    rw [List.map_cons, ih (hclosed.union hmem), hhead, htail, hcons, peel]

/-- The components are those that are peeled off. -/
theorem componentsOf_eq_peel (hv : values.Nodup) : componentsOf p values = peel p values := by
  have h := (decomposed_tableOf p values).map_valuesAt hv fun i hi ↦ hi.elim
  have hall : unseen values ∅ = List.range values.length := by simp [unseen]
  rwa [hall, valuesAt_range] at h

open Classical in
/-- The first component holds what the first value reaches.  The others are the components of what
it does not reach. -/
theorem componentsOf_cons {rest : List α} (hv : (a :: rest).Nodup) :
    componentsOf p (a :: rest) =
      (a :: rest).filter (· ∈ componentOf p (a :: rest) a) ::
        componentsOf p (rest.filter (· ∉ componentOf p (a :: rest) a)) := by
  have hrest := (List.nodup_cons.mp hv).2.filter (· ∉ componentOf p (a :: rest) a)
  rw [componentsOf_eq_peel hv, componentsOf_eq_peel hrest, peel]

theorem componentsOf_nil (p : α → α → Bool) : componentsOf p [] = [] := by
  rw [componentsOf_eq_peel .nil, peel]

/-! ## Lists without conflicts between them -/

/-- No value of one list is in conflict with a value of the other. -/
def Unrelated (p : α → α → Bool) (xs ys : List α) : Prop :=
  ∀ x ∈ xs, ∀ y ∈ ys, p x y = false ∧ p y x = false

theorem Unrelated.symm {xs ys : List α} (h : Unrelated p xs ys) : Unrelated p ys xs :=
  fun y hy x hx ↦ (h x hx y hy).symm

section Interleaved

variable {xs ys zs : List α}

/-- The first component of a list that begins with the first value of one of two lists is a
component of that one, if shorter lists have the components of the two that they interleave. -/
theorem Interleaving.componentsOf_perm_left (h : Interleaving xs ys zs) (hv : (a :: zs).Nodup)
    (hapart : Unrelated p (a :: xs) ys)
    (ih : ∀ {xs' zs' : List α}, zs'.length ≤ zs.length → Interleaving xs' ys zs' → zs'.Nodup →
      Unrelated p xs' ys → (componentsOf p zs').Perm (componentsOf p xs' ++ componentsOf p ys)) :
    (componentsOf p (a :: zs)).Perm (componentsOf p (a :: xs) ++ componentsOf p ys) := by
  classical
  have hperm := h.left (a := a).perm
  obtain ⟨hxs, -, hdisjoint⟩ := List.nodup_append'.mp (hperm.nodup_iff.mp hv)
  have hclosed : ∀ x y, Joined p (a :: zs) x y → x ∈ a :: xs → y ∈ a :: xs := by
    intro x y hxy hx
    rcases List.mem_append.mp (hperm.subset hxy.2.1) with hy | hy
    · exact hy
    · have hnot := (hapart x hx y hy).1
      rw [hxy.2.2.2] at hnot
      exact Bool.noConfusion hnot
  have hreach : componentOf p (a :: zs) a = componentOf p (a :: xs) a :=
    componentOf_eq_of_closed (fun x hx ↦ hperm.symm.subset (List.mem_append_left _ hx)) hclosed
      List.mem_cons_self
  have hothers : ∀ y ∈ ys, y ∉ componentOf p (a :: xs) a := fun y hy hya ↦
    hdisjoint (mem_of_mem_componentOf List.mem_cons_self hya) hy
  have hfirst : (a :: zs).filter (· ∈ componentOf p (a :: xs) a) =
      (a :: xs).filter (· ∈ componentOf p (a :: xs) a) := by
    have hin := h.left (a := a).filter (· ∈ componentOf p (a :: xs) a)
    have hnone : ys.filter (· ∈ componentOf p (a :: xs) a) = [] :=
      List.filter_eq_nil_iff.mpr fun y hy ↦ by simpa using hothers y hy
    rw [hnone] at hin
    exact hin.eq_left
  have hout := h.filter (· ∉ componentOf p (a :: xs) a)
  have hall : ys.filter (· ∉ componentOf p (a :: xs) a) = ys :=
    List.filter_eq_self.mpr fun y hy ↦ by simpa using hothers y hy
  rw [hall] at hout
  rw [componentsOf_cons hv, componentsOf_cons hxs, hreach, hfirst, List.cons_append]
  refine (ih (List.length_filter_le _ _) hout ((List.nodup_cons.mp hv).2.filter _) ?_).cons _
  exact fun x hx ↦ hapart x (List.mem_cons_of_mem _ (List.mem_of_mem_filter hx))

/-- A list that interleaves two lists without conflicts between them has the components of both. -/
theorem Interleaving.componentsOf_perm (h : Interleaving xs ys zs) (hv : zs.Nodup)
    (hapart : Unrelated p xs ys) :
    (componentsOf p zs).Perm (componentsOf p xs ++ componentsOf p ys) := by
  induction hn : zs.length using Nat.strong_induction_on generalizing xs ys zs with
  | _ n ih =>
    subst hn
    cases h with
    | nil => rw [componentsOf_nil, List.append_nil]
    | left h =>
      refine h.componentsOf_perm_left hv hapart fun hle h' hv' hapart' ↦ ?_
      exact ih _ (Nat.lt_succ_of_le hle) h' hv' hapart' rfl
    | right h =>
      refine (h.swap.componentsOf_perm_left hv hapart.symm fun hle h' hv' hapart' ↦ ?_).trans
        List.perm_append_comm
      exact (ih _ (Nat.lt_succ_of_le hle) h'.swap hv' hapart'.symm rfl).trans
        List.perm_append_comm

end Interleaved

/-- Values without conflicts are components of their own. -/
theorem componentsOf_of_unrelated (hv : values.Nodup)
    (h : ∀ a ∈ values, ∀ b ∈ values, a ≠ b → p a b = false) :
    componentsOf p values = values.map fun a ↦ [a] := by
  classical
  induction values with
  | nil => exact componentsOf_nil p
  | cons a rest ih =>
    obtain ⟨ha, hrest⟩ := List.nodup_cons.mp hv
    have halone : componentOf p (a :: rest) a = {a} := by
      ext b
      constructor
      · intro hb
        rcases ReflTransGen.cases_head hb with heq | ⟨c, hac, -⟩
        · exact heq.symm
        · have hnot := h a hac.1 c hac.2.1 hac.2.2.1
          rw [hac.2.2.2] at hnot
          exact Bool.noConfusion hnot
      · rintro rfl
        exact .refl
    have hself : ∀ b ∈ rest, b ≠ a := fun b hb heq ↦ ha (heq ▸ hb)
    have hnone : rest.filter (· ∈ componentOf p (a :: rest) a) = [] :=
      List.filter_eq_nil_iff.mpr fun b hb ↦ by simpa [halone] using hself b hb
    have hall : rest.filter (· ∉ componentOf p (a :: rest) a) = rest :=
      List.filter_eq_self.mpr fun b hb ↦ by simpa [halone] using hself b hb
    rw [componentsOf_cons hv, List.filter_cons_of_pos (by simp [halone]), hnone, hall,
      List.map_cons, ih hrest fun b hb c hc ↦ h b (List.mem_cons_of_mem _ hb) c (List.mem_cons_of_mem _ hc)]

end Loadout
