import Loadout.Proofs.Graph.Partition
import Mathlib.Algebra.BigOperators.Group.List.Basic
import Mathlib.Algebra.Order.BigOperators.Group.List
import Mathlib.Algebra.Order.Group.Defs
import Mathlib.Algebra.Order.Monoid.Unbundled.Basic
import Mathlib.Data.List.NodupEquivFin
import Mathlib.Data.List.Pairwise

/-!
# Independent sets

An independent set of a list of values is a set of them in which no two are in conflict.  In the
order of the list it is a legal part, of which one can say which of two comes first.  There is at
most one heaviest legal part that precedes all others, `FirstHeaviest.eq`.

Parts are compared component by component: an independent set weighs what its members in the
components weigh, `total_eq_sum`, and of two parts the first one is the first in a component,
`precedesIn_of_components`.
-/

namespace Loadout

variable {α φ : Type} {p : α → α → Bool} {values S T : List α}

/-- The weight of a selection. -/
def total [Add φ] [Zero φ] (weight : α → φ) (selected : List α) : φ :=
  (selected.map weight).sum

section Total

variable [AddCommMonoid φ] {weight : α → φ}

@[simp] theorem total_nil : total weight [] = 0 := rfl

@[simp] theorem total_cons (a : α) (S : List α) :
    total weight (a :: S) = weight a + total weight S := rfl

theorem total_append (S T : List α) :
    total weight (S ++ T) = total weight S + total weight T := by
  simp [total]

theorem total_flatten (parts : List (List α)) :
    total weight parts.flatten = (parts.map (total weight)).sum := by
  induction parts with
  | nil => rfl
  | cons S parts ih => rw [List.flatten_cons, total_append, ih, List.map_cons, List.sum_cons]

theorem total_perm (h : S.Perm T) : total weight S = total weight T :=
  (h.map weight).sum_eq

end Total

/-- A set of values of which no two different ones are in conflict. -/
structure Independent (p : α → α → Bool) (values selected : List α) : Prop where
  subset : selected ⊆ values
  nodup : selected.Nodup
  apart : ∀ a ∈ selected, ∀ b ∈ selected, a ≠ b → p a b = false

theorem Independent.mono {others : List α} (h : Independent p values S) (hsub : values ⊆ others) :
    Independent p others S :=
  ⟨List.Subset.trans h.subset hsub, h.nodup, h.apart⟩

theorem Independent.of_subset (h : Independent p values S) (hT : T.Nodup) (hsub : T ⊆ S) :
    Independent p values T :=
  ⟨List.Subset.trans hsub h.subset, hT, fun a ha b hb ↦ h.apart a (hsub ha) b (hsub hb)⟩

theorem Independent.append (hS : Independent p values S) (hT : Independent p values T)
    (hcross : ∀ a ∈ S, ∀ b ∈ T, a ≠ b ∧ p a b = false ∧ p b a = false) :
    Independent p values (S ++ T) where
  subset := List.append_subset.mpr ⟨hS.subset, hT.subset⟩
  nodup := List.nodup_append.mpr ⟨hS.nodup, hT.nodup, fun a ha b hb ↦ (hcross a ha b hb).1⟩
  apart a ha b hb hab := by
    rcases List.mem_append.mp ha with ha | ha <;> rcases List.mem_append.mp hb with hb | hb
    · exact hS.apart a ha b hb hab
    · exact (hcross a ha b hb).2.1
    · exact (hcross b hb a ha).2.2
    · exact hT.apart a ha b hb hab

theorem independent_of_length_lt_two (p : α → α → Bool) (h : values.length < 2) :
    Independent p values values := by
  match values with
  | [] => exact ⟨List.Subset.refl _, .nil, by simp⟩
  | [v] => exact ⟨List.Subset.refl _, List.nodup_singleton v, by simp⟩
  | v :: w :: rest => exact absurd h (by simp)

/-- If every value of a set gives way to an independent set, and no conflicts arise between what two
of them give way to, the result is an independent set. -/
theorem Independent.flatMap {others : List α} {R : α → List α} (hT : T.Nodup)
    (hR : ∀ t ∈ T, Independent p others (R t))
    (hcross : ∀ t ∈ T, ∀ u ∈ T, t ≠ u → ∀ a ∈ R t, ∀ b ∈ R u, a ≠ b ∧ p a b = false) :
    Independent p others (T.flatMap R) := by
  refine ⟨fun a ha ↦ ?_, List.nodup_flatMap.mpr ⟨fun t ht ↦ (hR t ht).nodup, ?_⟩, ?_⟩
  · obtain ⟨t, ht, ha⟩ := List.mem_flatMap.mp ha
    exact (hR t ht).subset ha
  · refine List.Pairwise.imp_of_mem (fun {t u} ht hu htu a hat hau ↦ ?_) hT
    exact (hcross t ht u hu htu a hat a hau).1 rfl
  · intro a ha b hb hab
    obtain ⟨t, ht, ha⟩ := List.mem_flatMap.mp ha
    obtain ⟨u, hu, hb⟩ := List.mem_flatMap.mp hb
    by_cases htu : t = u
    · exact (hR t ht).apart a ha b (htu ▸ hb) hab
    · exact (hcross t ht u hu htu a ha b hb).2

/-- A part of a list in which no value is in conflict with an earlier one. -/
structure LegalPart (p : α → α → Bool) (values selected : List α) : Prop where
  sublist : selected.Sublist values
  legal : selected.Pairwise fun a b ↦ p b a = false

theorem legalPart_nil (p : α → α → Bool) (values : List α) : LegalPart p values [] :=
  ⟨List.nil_sublist _, .nil⟩

open Classical in
/-- The members of a set that are in a list, in the order of the list. -/
noncomputable def inOrder (values selected : List α) : List α :=
  values.filter fun a ↦ a ∈ selected

theorem mem_inOrder {a : α} : a ∈ inOrder values S ↔ a ∈ values ∧ a ∈ S := by
  simp [inOrder]

theorem inOrder_congr (h : ∀ a ∈ values, a ∈ S ↔ a ∈ T) : inOrder values S = inOrder values T :=
  List.filter_congr fun a ha ↦ by simp [h a ha]

theorem inOrder_sublist (values S : List α) : (inOrder values S).Sublist values :=
  List.filter_sublist

theorem inOrder_perm (hv : values.Nodup) (hS : S.Nodup) (hsub : S ⊆ values) :
    (inOrder values S).Perm S := by
  refine (List.perm_ext_iff_of_nodup (hv.sublist (inOrder_sublist _ _)) hS).mpr fun a ↦ ?_
  exact mem_inOrder.trans (and_iff_right_of_imp fun h ↦ hsub h)

theorem inOrder_eq_self (hv : values.Nodup) (hS : S.Sublist values) : inOrder values S = S := by
  induction hS with
  | slnil => rfl
  | @cons S values a hS ih =>
    obtain ⟨ha, hv⟩ := List.nodup_cons.mp hv
    have hleft : a ∉ S := fun h ↦ ha (hS.subset h)
    rw [inOrder, List.filter_cons_of_neg (by simpa using hleft), ← inOrder, ih hv]
  | @cons_cons S values a hS ih =>
    obtain ⟨ha, hv⟩ := List.nodup_cons.mp hv
    rw [inOrder, List.filter_cons_of_pos (by simp)]
    have hcongr : inOrder values (a :: S) = inOrder values S := by
      refine inOrder_congr fun b hb ↦ ?_
      have hne : b ≠ a := fun h ↦ ha (h ▸ hb)
      simp [hne]
    rw [← inOrder, hcongr, ih hv]

/-- Of two parts of a list, the one whose members are in the other is a part of it. -/
theorem sublist_of_subset (hv : values.Nodup) (hS : S.Sublist values) (hT : T.Sublist values)
    (hsub : S ⊆ T) : S.Sublist T := by
  have h : inOrder (inOrder values T) S = inOrder values S := by
    rw [inOrder, inOrder, inOrder, List.filter_filter]
    refine List.filter_congr fun a _ ↦ ?_
    simpa using fun ha ↦ hsub ha
  rw [← inOrder_eq_self hv hS, ← h, inOrder_eq_self hv hT]
  exact inOrder_sublist _ _

theorem Independent.legalPart (hv : values.Nodup) (h : Independent p values S) :
    LegalPart p values (inOrder values S) where
  sublist := inOrder_sublist _ _
  legal := by
    have hne : (inOrder values S).Pairwise (· ≠ ·) := hv.sublist (inOrder_sublist _ _)
    refine hne.imp_of_mem fun {a b} ha hb hab ↦ ?_
    exact h.apart b (mem_inOrder.mp hb).2 a (mem_inOrder.mp ha).2 hab.symm

theorem LegalPart.independent (hv : values.Nodup) (hsymm : SymmetricOn p values)
    (h : LegalPart p values S) : Independent p values S where
  subset := h.sublist.subset
  nodup := hv.sublist h.sublist
  apart := by
    have hboth : S.Pairwise fun a b ↦ p a b = false ∧ p b a = false :=
      ((hsymm.sublist h.sublist).and h.legal).imp fun hab ↦ ⟨hab.1.trans hab.2, hab.2⟩
    have : Std.Symm fun a b ↦ p a b = false ∧ p b a = false := ⟨fun _ _ ↦ And.symm⟩
    exact fun a ha b hb hab ↦ (hboth.forall ha hb hab).1

/-- The members of a legal part that are in another part. -/
theorem LegalPart.inOrder (hv : values.Nodup) (h : LegalPart p values T) {c : List α}
    (hc : c.Sublist values) : LegalPart p c (inOrder c T) where
  sublist := inOrder_sublist _ _
  legal := by
    refine List.Pairwise.sublist ?_ h.legal
    exact sublist_of_subset hv ((inOrder_sublist c T).trans hc) h.sublist fun a ha ↦
      (mem_inOrder.mp ha).2

/-! ## Which part comes first -/

/-- The first value of a list on which two selections differ is in the first of them. -/
def PrecedesIn (values S T : List α) : Prop :=
  ∃ (i : Nat) (a : α), values[i]? = some a ∧ a ∈ S ∧ a ∉ T ∧
    ∀ j < i, ∀ b, values[j]? = some b → (b ∈ S ↔ b ∈ T)

theorem PrecedesIn.asymm (h : PrecedesIn values S T) : ¬ PrecedesIn values T S := by
  rintro ⟨j, b, hj, hbT, hbS, hsame'⟩
  obtain ⟨i, a, hi, haS, haT, hsame⟩ := h
  rcases Nat.lt_trichotomy i j with hlt | rfl | hlt
  · exact haT ((hsame' i hlt a hi).mpr haS)
  · rw [hi] at hj
    exact haT (Option.some.inj hj ▸ hbT)
  · exact hbS ((hsame j hlt b hj).mpr hbT)

/-- A heaviest legal part that precedes all other heaviest ones. -/
structure FirstHeaviest [Add φ] [Zero φ] [LE φ] (p : α → α → Bool) (weight : α → φ)
    (values selected : List α) : Prop where
  part : LegalPart p values selected
  heaviest : ∀ T, LegalPart p values T → total weight T ≤ total weight selected
  first : ∀ T, LegalPart p values T → total weight T = total weight selected → T ≠ selected →
    PrecedesIn values selected T

theorem FirstHeaviest.eq [AddCommMonoid φ] [PartialOrder φ] {weight : α → φ}
    (hS : FirstHeaviest p weight values S) (hT : FirstHeaviest p weight values T) : S = T := by
  by_contra hne
  have heq : total weight S = total weight T :=
    le_antisymm (hT.heaviest S hS.part) (hS.heaviest T hT.part)
  exact (hS.first T hT.part heq.symm (Ne.symm hne)).asymm (hT.first S hS.part heq hne)

/-! ## Components -/

section Components

variable {components parts : List (List α)}

/-- Two different parts of a list differ first on some value. -/
theorem exists_first_difference (hv : values.Nodup) (hS : S.Sublist values) (hT : T.Sublist values)
    (hne : S ≠ T) :
    ∃ (i : Nat) (a : α), values[i]? = some a ∧ ¬(a ∈ S ↔ a ∈ T) ∧
      ∀ j < i, ∀ b, values[j]? = some b → (b ∈ S ↔ b ∈ T) := by
  have hdiffer : ∃ (i : Nat) (a : α), values[i]? = some a ∧ ¬(a ∈ S ↔ a ∈ T) := by
    by_contra hsame
    push Not at hsame
    refine hne ?_
    rw [← inOrder_eq_self hv hS, ← inOrder_eq_self hv hT]
    refine inOrder_congr fun a ha ↦ ?_
    obtain ⟨i, hi⟩ := List.mem_iff_getElem?.mp ha
    exact hsame i a hi
  classical
  obtain ⟨a, hi, hdiff⟩ := Nat.find_spec hdiffer
  refine ⟨Nat.find hdiffer, a, hi, hdiff, fun j hj b hb ↦ ?_⟩
  have hsame := Nat.find_min hdiffer hj
  push Not at hsame
  exact hsame b hb

/-- If a part comes first in every component in which it differs from another one, then it comes
first. -/
theorem precedesIn_of_components (hperm : components.flatten.Perm values) (hv : values.Nodup)
    (hsub : ∀ c ∈ components, c.Sublist values) (hS : S.Sublist values) (hT : T.Sublist values)
    (hne : S ≠ T)
    (h : ∀ c ∈ components, inOrder c S = inOrder c T ∨ PrecedesIn c (inOrder c S) (inOrder c T)) :
    PrecedesIn values S T := by
  obtain ⟨i, a, hi, hdiff, hmin⟩ := exists_first_difference hv hS hT hne
  -- The first difference lies in some component, and is the first one there too.
  obtain ⟨c, hc, hac⟩ := List.mem_flatten.mp (hperm.mem_iff.mpr (List.mem_of_getElem? hi))
  obtain ⟨f, hf⟩ := List.sublist_iff_exists_orderEmbedding_getElem?_eq.mp (hsub c hc)
  obtain ⟨m, hm⟩ := List.mem_iff_getElem?.mp hac
  have hfm : f m = i := by
    have h := (hf m).symm.trans hm
    obtain ⟨hlt, heq⟩ := List.getElem?_eq_some_iff.mp h
    obtain ⟨hlt', heq'⟩ := List.getElem?_eq_some_iff.mp hi
    exact hv.getElem_inj_iff.mp (heq.trans heq'.symm)
  rcases h c hc with heq | ⟨k, b, hk, hbS, hbT, hsame⟩
  · have hiff : a ∈ inOrder c S ↔ a ∈ inOrder c T := by rw [heq]
    simp only [mem_inOrder, hac, true_and] at hiff
    exact absurd hiff hdiff
  · have hbc : b ∈ c := List.mem_of_getElem? hk
    simp only [mem_inOrder, hbc, true_and] at hbS hbT
    have hkm : k = m := by
      rcases Nat.lt_trichotomy k m with hlt | heq | hlt
      · have hbi := hmin (f k) (hfm ▸ f.lt_iff_lt.mpr hlt) b ((hf k).symm.trans hk)
        exact absurd (hbi.mp hbS) hbT
      · exact heq
      · have hiff := hsame m hlt a hm
        simp only [mem_inOrder, hac, true_and] at hiff
        exact absurd hiff hdiff
    have hab : a = b := Option.some.inj (hm.symm.trans (hkm ▸ hk))
    exact ⟨i, a, hi, hab ▸ hbS, hab ▸ hbT, hmin⟩

/-- Sets that are independent in components between which there are no conflicts make an independent
set. -/
theorem Independent.flatten
    (hapart : components.Pairwise fun c d ↦ ∀ a ∈ c, ∀ b ∈ d, p a b = false ∧ p b a = false)
    (hnodup : components.flatten.Nodup) (h : List.Forall₂ (Independent p) components parts) :
    Independent p components.flatten parts.flatten := by
  induction h with
  | nil => exact ⟨by simp, .nil, by simp⟩
  | @cons c S components parts hS _ ih =>
    obtain ⟨hc, hapart⟩ := List.pairwise_cons.mp hapart
    rw [List.flatten_cons] at hnodup
    obtain ⟨-, hnodup, hdisjoint⟩ := List.nodup_append'.mp hnodup
    have hrest := ih hapart hnodup
    have hcross : ∀ a ∈ S, ∀ b ∈ parts.flatten, p a b = false ∧ p b a = false := by
      intro a ha b hb
      obtain ⟨d, hd, hbd⟩ := List.mem_flatten.mp (hrest.subset hb)
      exact hc d hd a (hS.subset ha) b hbd
    simp only [List.flatten_cons]
    refine ⟨List.append_subset.mpr ⟨?_, ?_⟩, ?_, fun a ha b hb hab ↦ ?_⟩
    · exact List.subset_append_of_subset_left _ hS.subset
    · exact List.subset_append_of_subset_right _ hrest.subset
    · refine List.nodup_append'.mpr ⟨hS.nodup, hrest.nodup, fun a ha hb ↦ ?_⟩
      exact hdisjoint (hS.subset ha) (hrest.subset hb)
    · rcases List.mem_append.mp ha with ha | ha <;> rcases List.mem_append.mp hb with hb | hb
      · exact hS.apart a ha b hb hab
      · exact (hcross a ha b hb).1
      · exact (hcross b hb a ha).2
      · exact hrest.apart a ha b hb hab

/-- Legal parts of components make an independent set. -/
theorem independent_of_legalParts (hperm : components.flatten.Perm values) (hv : values.Nodup)
    (hsub : ∀ c ∈ components, c.Sublist values) (hsymm : SymmetricOn p values)
    (hapart : components.Pairwise fun c d ↦ ∀ a ∈ c, ∀ b ∈ d, p a b = false ∧ p b a = false)
    (h : List.Forall₂ (LegalPart p) components parts) : Independent p values parts.flatten := by
  have hparts := (List.forall₂_and_left components parts).mpr ⟨hsub, h⟩
  refine (Independent.flatten hapart (hperm.nodup_iff.mpr hv) ?_).mono hperm.subset
  exact hparts.imp fun c S hS ↦ hS.2.independent (hv.sublist hS.1) (hsymm.sublist hS.1)

theorem flatten_subset_flatten (h : List.Forall₂ (fun c S ↦ S.Sublist c) components parts) :
    parts.flatten ⊆ components.flatten := by
  induction h with
  | nil => exact List.Subset.refl _
  | cons hS _ ih =>
    refine List.append_subset.mpr ⟨?_, ?_⟩
    · exact List.subset_append_of_subset_left _ hS.subset
    · exact List.subset_append_of_subset_right _ ih

/-- What a union of parts of components, and of values outside of them, has in each of the
components is the part of that component. -/
theorem forall₂_inOrder_append (hnodup : components.flatten.Nodup)
    (h : List.Forall₂ (fun c S ↦ S.Sublist c) components parts) {others : List α}
    (hothers : others.Disjoint components.flatten) :
    List.Forall₂ (fun c S ↦ inOrder c (others ++ parts.flatten) = S) components parts := by
  induction h generalizing others with
  | nil => exact .nil
  | @cons c S components parts hS hrest ih =>
    simp only [List.flatten_cons] at hnodup hothers ⊢
    obtain ⟨hc, hnodup, hdisjoint⟩ := List.nodup_append'.mp hnodup
    obtain ⟨hothersc, hothers⟩ := List.disjoint_append_right.mp hothers
    refine .cons ?_ ?_
    · rw [← inOrder_eq_self hc hS]
      refine inOrder_congr fun a ha ↦ ?_
      have hrest : a ∉ parts.flatten := fun h ↦ hdisjoint ha (flatten_subset_flatten hrest h)
      have hother : a ∉ others := fun h ↦ hothersc h ha
      simp [inOrder_eq_self hc hS, hrest, hother]
    · rw [← List.append_assoc]
      refine ih hnodup (List.disjoint_append_left.mpr ⟨hothers, fun a ha ↦ ?_⟩)
      exact hdisjoint (hS.subset ha)

/-- What a union of parts of components has in each of them is the part of that component. -/
theorem forall₂_inOrder_flatten (hnodup : components.flatten.Nodup)
    (h : List.Forall₂ (fun c S ↦ S.Sublist c) components parts) :
    List.Forall₂ (fun c S ↦ inOrder c parts.flatten = S) components parts :=
  forall₂_inOrder_append hnodup h (List.disjoint_nil_left _)

variable [AddCommMonoid φ] {weight : α → φ}

/-- A set of values weighs what its members in the components weigh. -/
theorem total_eq_sum (hperm : components.flatten.Perm values) (hv : values.Nodup) (hS : S.Nodup)
    (hsub : S ⊆ values) :
    total weight S = (components.map fun c ↦ total weight (inOrder c S)).sum := by
  have hmem : S.Perm (inOrder components.flatten S) :=
    (inOrder_perm hv hS hsub).symm.trans (hperm.symm.filter _)
  rw [total_perm hmem, inOrder, List.filter_flatten, total_flatten, List.map_map]
  rfl

variable [PartialOrder φ] [IsOrderedCancelAddMonoid φ]

theorem total_le_total_flatMap {R : α → List α}
    (h : ∀ t ∈ T, weight t ≤ total weight (R t)) : total weight T ≤ total weight (T.flatMap R) := by
  rw [List.flatMap, total_flatten, List.map_map]
  exact List.sum_le_sum h

/-- A set weighs no more than all values of which it is a subset, if no weight is negative. -/
theorem total_le_of_nonneg (hv : values.Nodup) (hT : T.Nodup) (hsub : T ⊆ values)
    (h : ∀ a ∈ values, 0 ≤ weight a) : total weight T ≤ total weight values := by
  rw [← total_perm (inOrder_perm hv hT hsub)]
  refine ((inOrder_sublist values T).map weight).sum_le_sum fun x hx ↦ ?_
  obtain ⟨a, ha, rfl⟩ := List.mem_map.mp hx
  exact h a ha

/-- A part of a list of positive weights weighs what the list weighs only if it is the whole. -/
theorem total_filter_eq_iff {q : α → Bool} (hpos : ∀ a ∈ S, 0 < weight a) :
    total weight (S.filter q) = total weight S ↔ ∀ a ∈ S, q a = true := by
  refine ⟨fun heq a ha ↦ ?_, fun hall ↦ by rw [List.filter_eq_self.mpr hall]⟩
  by_contra hq
  have hrest : 0 < total weight (S.filter fun a ↦ !q a) := by
    refine List.sum_pos _ (fun x hx ↦ ?_) fun hnil ↦ ?_
    · obtain ⟨b, hb, rfl⟩ := List.mem_map.mp hx
      exact hpos b (List.mem_of_mem_filter hb)
    · have hmem : a ∈ S.filter fun a ↦ !q a := List.mem_filter.mpr ⟨ha, by simpa using hq⟩
      rw [List.map_eq_nil_iff.mp hnil] at hmem
      exact absurd hmem List.not_mem_nil
  rw [← total_perm (List.filter_append_perm q S), total_append, left_eq_add] at heq
  exact hrest.ne' heq

/-- What a heaviest set has of values that are in conflict with no others is heaviest among them. -/
theorem Independent.total_le_total_filter {q : α → Bool} (hS : Independent p values S)
    (hheaviest : ∀ T, Independent p values T → total weight T ≤ total weight S)
    (hfree : ∀ a ∈ values, ∀ b ∈ values, q a = true → q b = false → p a b = false ∧ p b a = false)
    (hT : Independent p (values.filter q) T) : total weight T ≤ total weight (S.filter q) := by
  have hrest : Independent p values (S.filter fun a ↦ !q a) :=
    hS.of_subset (hS.nodup.filter _) List.filter_sublist.subset
  have hboth : Independent p values (T ++ S.filter fun a ↦ !q a) := by
    refine (hT.mono List.filter_sublist.subset).append hrest fun a ha b hb ↦ ?_
    obtain ⟨hav, hqa⟩ := List.mem_filter.mp (hT.subset ha)
    obtain ⟨hbS, hqb⟩ := List.mem_filter.mp hb
    rw [Bool.not_eq_true'] at hqb
    refine ⟨?_, hfree a hav b (hS.subset hbS) hqa hqb⟩
    rintro rfl
    exact absurd hqa (by simp [hqb])
  have hle := hheaviest _ hboth
  rw [total_append, ← total_perm (List.filter_append_perm q S), total_append] at hle
  exact le_of_add_le_add_right hle

/-- A value of positive weight that is in conflict with no others is in every heaviest set. -/
theorem Independent.mem_of_heaviest {a : α} (hS : Independent p values S)
    (hheaviest : ∀ T, Independent p values T → total weight T ≤ total weight S) (ha : a ∈ values)
    (hpos : 0 < weight a) (hfree : ∀ b ∈ values, b ≠ a → p a b = false ∧ p b a = false) :
    a ∈ S := by
  classical
  have hsingle : Independent p (values.filter fun b ↦ decide (b = a)) [a] :=
    ⟨by simp [ha], List.nodup_singleton a, by simp⟩
  have hle := hS.total_le_total_filter hheaviest (fun b _ c hc hb hne ↦ ?_) hsingle
  · by_contra hnot
    have hnil : (S.filter fun b ↦ decide (b = a)) = [] := by
      refine List.filter_eq_nil_iff.mpr fun b hb heq ↦ hnot ?_
      rwa [← of_decide_eq_true heq]
    rw [hnil, total_cons, total_nil, add_zero] at hle
    exact absurd hpos (not_lt_of_ge hle)
  · rw [of_decide_eq_true hb]
    exact hfree c hc (of_decide_eq_false hne)

theorem sum_le_sum_of_forall₂ {f : List α → φ}
    (h : List.Forall₂ (fun c S ↦ f c ≤ total weight S) components parts) :
    (components.map f).sum ≤ total weight parts.flatten := by
  induction h with
  | nil => exact le_rfl
  | cons hle _ ih =>
    rw [List.map_cons, List.sum_cons, List.flatten_cons, total_append]
    exact add_le_add hle ih

theorem forall₂_eq_of_sum_eq {f : List α → φ}
    (h : List.Forall₂ (fun c S ↦ f c ≤ total weight S) components parts)
    (hsum : (components.map f).sum = total weight parts.flatten) :
    List.Forall₂ (fun c S ↦ f c = total weight S) components parts := by
  induction h with
  | nil => exact .nil
  | cons hle hrest ih =>
    rw [List.map_cons, List.sum_cons, List.flatten_cons, total_append] at hsum
    obtain ⟨heq, hsum⟩ := (add_eq_add_iff_eq_and_eq hle (sum_le_sum_of_forall₂ hrest)).mp hsum
    exact .cons heq (ih hsum)

/-- The first heaviest parts of all components make the first heaviest part. -/
theorem firstHeaviest_of_components (hperm : components.flatten.Perm values) (hv : values.Nodup)
    (hsub : ∀ c ∈ components, c.Sublist values) (hsymm : SymmetricOn p values)
    (hapart : components.Pairwise fun c d ↦ ∀ a ∈ c, ∀ b ∈ d, p a b = false ∧ p b a = false)
    (h : List.Forall₂ (FirstHeaviest p weight) components parts) :
    FirstHeaviest p weight values (inOrder values parts.flatten) := by
  have hnodup : components.flatten.Nodup := hperm.nodup_iff.mpr hv
  have hboth := (List.forall₂_and_left components parts).mpr ⟨hsub, h⟩
  have hindep : Independent p values parts.flatten :=
    independent_of_legalParts hperm hv hsub hsymm hapart (h.imp fun _ _ hS ↦ hS.part)
  have htotal : total weight (inOrder values parts.flatten) = total weight parts.flatten :=
    total_perm (inOrder_perm hv hindep.nodup hindep.subset)
  have hle : ∀ T, LegalPart p values T → List.Forall₂
      (fun c S ↦ total weight (inOrder c T) ≤ total weight S) components parts :=
    fun T hT ↦ hboth.imp fun c S hS ↦ hS.2.heaviest _ (hT.inOrder hv hS.1)
  have hsum : ∀ T, LegalPart p values T →
      total weight T = (components.map fun c ↦ total weight (inOrder c T)).sum :=
    fun T hT ↦ total_eq_sum hperm hv (hv.sublist hT.sublist) hT.sublist.subset
  refine ⟨hindep.legalPart hv, fun T hT ↦ ?_, fun T hT heq hne ↦ ?_⟩
  · rw [htotal, hsum T hT]
    exact sum_le_sum_of_forall₂ (hle T hT)
  · rw [htotal, hsum T hT] at heq
    have hsame := forall₂_eq_of_sum_eq (hle T hT) heq
    have hhere := forall₂_inOrder_flatten hnodup (h.imp fun _ _ hS ↦ hS.part.sublist)
    have hfirst : List.Forall₂
        (fun c S ↦ inOrder c T = S ∨ PrecedesIn c S (inOrder c T)) components parts := by
      refine hboth.mp (fun c S hS htot ↦ ?_) hsame
      by_cases hcT : inOrder c T = S
      · exact .inl hcT
      · exact .inr (hS.2.first _ (hT.inOrder hv hS.1) htot hcT)
    have hall : List.Forall₂ (fun c _ ↦ (inOrder c parts.flatten = inOrder c T ∨
        PrecedesIn c (inOrder c parts.flatten) (inOrder c T)) ∧ True) components parts := by
      refine hhere.mp (fun c S hcS hcT ↦ ⟨?_, trivial⟩) hfirst
      rw [hcS]
      exact hcT.imp_left Eq.symm
    refine precedesIn_of_components hperm hv hsub (inOrder_sublist _ _) hT.sublist hne.symm ?_
    intro c hc
    rw [inOrder_congr fun a ha ↦ (mem_inOrder.trans (and_iff_right ((hsub c hc).subset ha)))]
    exact ((List.forall₂_and_left _ _).mp hall).1 c hc

end Components

end Loadout
