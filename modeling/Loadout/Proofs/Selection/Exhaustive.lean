import Loadout.Proofs.Distinct
import Loadout.Proofs.Outcome
import Loadout.Proofs.Selection.Enumeration
import Loadout.Proofs.Selection.Independent

/-!
# What the exhaustive search finds

The search answers what it has chosen from the different values of a list, `Exhaustive.find_ends`.
Whatever the weights are, it has chosen a legal part of them, `chosen_legalPart`.  If sums and
comparisons of weights are exact, it has chosen one of the heaviest, `total_le_total_chosen`; and if
no value weighs nothing, the first of these, `firstHeaviest_chosen`.
-/

namespace Loadout

variable {τ α ω φ : Type} {p : α → α → Bool} {values T : List α}

/-! ## Places and the values at them -/

theorem mem_valuesAt_iff (hv : values.Nodup) {places : List Nat} {i : Nat} {a : α}
    (hi : values[i]? = some a) : a ∈ valuesAt values places ↔ i ∈ places := by
  rw [mem_valuesAt]
  constructor
  · rintro ⟨j, hj, hja⟩
    obtain ⟨hilt, hia⟩ := List.getElem?_eq_some_iff.mp hi
    obtain ⟨hjlt, hja⟩ := List.getElem?_eq_some_iff.mp hja
    have hij : j = i := hv.getElem_inj_iff.mp (hja.trans hia.symm)
    exact hij ▸ hj
  · intro h
    exact ⟨i, h, hi⟩

/-- A part of a list is what it has at some ascending places. -/
theorem exists_places (hT : T.Sublist values) :
    ∃ places, places.Sublist (List.range values.length) ∧ T = valuesAt values places := by
  rw [← valuesAt_range values] at hT
  exact List.sublist_filterMap_iff.mp hT

/-- Places that can be taken together hold a legal part, and no other places do. -/
theorem legal_iff_legalPart {places : List Nat}
    (hplaces : places.Sublist (List.range values.length)) :
    Legal (tableOf p values).cell [] places ↔ LegalPart p values (valuesAt values places) := by
  have hsorted : places.Pairwise (· < ·) := List.pairwise_lt_range.sublist hplaces
  have hlt : ∀ i ∈ places, i < values.length := fun i hi ↦ List.mem_range.mp (hplaces.subset hi)
  have hcell : places.Pairwise (fun j i ↦ (tableOf p values).cell i j = false) ↔
      (valuesAt values places).Pairwise fun a b ↦ p b a = false := by
    rw [valuesAt, List.pairwise_filterMap]
    constructor
    · intro h
      refine (hsorted.and h).imp fun {j i} hji a ha b hb ↦ ?_
      by_contra hp
      have hedge := (edge_tableOf hb ha).mpr ⟨Nat.ne_of_gt hji.1, by simpa using hp⟩
      exact absurd hji.2 (by rw [show (tableOf p values).cell i j = true from hedge]; simp)
    · intro h
      refine (hsorted.and h).imp_of_mem fun {j i} hj hi hji ↦ ?_
      have hja := List.getElem?_eq_getElem (hlt j hj)
      have hib := List.getElem?_eq_getElem (hlt i hi)
      by_contra hcell
      have hedge : (tableOf p values).Edge i j := by simpa [Table.Edge] using hcell
      have hp := hji.2 _ hja _ hib
      rw [((edge_tableOf hib hja).mp hedge).2] at hp
      exact Bool.noConfusion hp
  constructor
  · rintro ⟨-, hlegal⟩
    exact ⟨valuesAt_sublist hsorted hlt, hcell.mp hlegal⟩
  · rintro ⟨-, hlegal⟩
    exact ⟨by simp, hcell.mpr hlegal⟩

theorem Precedes.precedesIn (hv : values.Nodup) {places others : List Nat}
    (hplaces : places.Sublist (List.range values.length)) (h : Precedes places others) :
    PrecedesIn values (valuesAt values places) (valuesAt values others) := by
  obtain ⟨i, hi, hnot, hsame⟩ := h
  have hia := List.getElem?_eq_getElem (List.mem_range.mp (hplaces.subset hi))
  refine ⟨i, _, hia, (mem_valuesAt_iff hv hia).mpr hi, ?_, fun j hj b hb ↦ ?_⟩
  · rwa [mem_valuesAt_iff hv hia]
  · rw [mem_valuesAt_iff hv hb, mem_valuesAt_iff hv hb]
    exact hsame j hj

theorem places_of_sublist {weights : List φ} {items : List (φ × Nat)}
    (hitems : items.Sublist weights.zipIdx) :
    (items.map Prod.snd).Sublist (List.range weights.length) := by
  have h := hitems.map Prod.snd
  rwa [List.zipIdx_map_snd, ← List.range_eq_range'] at h

/-! ## What is chosen -/

section Chosen

variable [Zero φ] [Add φ] [LT φ] [DecidableLT φ]

/-- The best choice consists of items that can be taken together, or of none. -/
theorem searchAll_best (conflict : Nat → Nat → Bool) (weights : List φ) :
    ∃ items, items.Sublist weights.zipIdx ∧ Legal conflict [] (items.map Prod.snd) ∧
      (searchAll conflict weights).best = (⟨0, []⟩ : Choice φ).extend items := by
  rw [searchAll, searchFrom_eq_foldl]
  rcases Progress.best_foldl_consider (choicesFrom conflict weights.zipIdx ⟨0, []⟩) .start
    with h | h
  · exact ⟨[], List.nil_sublist _, legal_nil _ _, h⟩
  · exact mem_choicesFrom.mp h

/-- What the search chooses from values with the given weights. -/
def chosen (p : α → α → Bool) (weights : List φ) (values : List α) : List α :=
  valuesAt values (searchAll (tableOf p values).cell weights).best.members

theorem members_sublist (conflict : Nat → Nat → Bool) (weights : List φ) :
    (searchAll conflict weights).best.members.Sublist (List.range weights.length) := by
  obtain ⟨items, hitems, -, hbest⟩ := searchAll_best conflict weights
  rw [hbest]
  exact places_of_sublist hitems

/-- Whatever weights mean, no chosen value is in conflict with an earlier one. -/
theorem chosen_legalPart {weights : List φ} (hlength : weights.length = values.length) :
    LegalPart p values (chosen p weights values) := by
  obtain ⟨items, hitems, hlegal, hbest⟩ := searchAll_best (tableOf p values).cell weights
  rw [chosen, hbest]
  exact (legal_iff_legalPart (hlength ▸ places_of_sublist hitems)).mp hlegal

end Chosen

/-! ## Exact weights -/

/-- Of the heaviest choices the search keeps the first, unless it keeps the one that it starts
from. -/
theorem searchAll_first [Zero φ] [Add φ] [LinearOrder φ] {conflict : Nat → Nat → Bool}
    {weights : List φ} {c : Choice φ} (hc : c ∈ choicesFrom conflict weights.zipIdx ⟨0, []⟩)
    (heq : c.weight = (searchAll conflict weights).best.weight) :
    (searchAll conflict weights).best = ⟨0, []⟩ ∨ c = (searchAll conflict weights).best ∨
      Precedes (searchAll conflict weights).best.members c.members := by
  have hfirst := (Progress.foldl_consider_linear
    (choicesFrom conflict weights.zipIdx ⟨0, []⟩) .start).2.2
  rw [← searchFrom_eq_foldl, ← searchAll] at hfirst
  rcases hfirst with hstart | ⟨-, earlier, later, hsplit, hearlier⟩
  · exact .inl hstart
  · have hsorted : (weights.zipIdx.map Prod.snd).Pairwise (· < ·) := by
      rw [List.zipIdx_map_snd]
      exact List.pairwise_lt_range'
    have horder : (choicesFrom conflict weights.zipIdx ⟨0, []⟩).Pairwise
        fun d e ↦ Precedes d.members e.members := pairwise_choicesFrom hsorted (by simp)
    rw [hsplit] at hc horder
    rcases List.mem_append.mp hc with hc | hc
    · exact absurd heq (ne_of_lt (hearlier c hc))
    · rcases List.mem_cons.mp hc with heq | hc
      · exact .inr (.inl heq)
      · exact .inr (.inr ((List.pairwise_cons.mp (List.pairwise_append.mp horder).2.1).1 c hc))

section Exact

variable [AddCommGroup φ] {weight : α → φ}

theorem weight_extend {items : List (φ × Nat)}
    (hitems : items.Sublist (values.map weight).zipIdx) :
    ((⟨0, []⟩ : Choice φ).extend items).weight =
      total weight (valuesAt values (items.map Prod.snd)) := by
  have hsum : ∀ (items : List (φ × Nat)) (c : φ),
      items.foldl (fun total item ↦ total + item.1) c = c + (items.map Prod.fst).sum := by
    intro items
    induction items with
    | nil => intro c; simp
    | cons item items ih => intro c; simp [ih, add_assoc]
  have hmap : (valuesAt values (items.map Prod.snd)).map weight = items.map Prod.fst := by
    rw [valuesAt, List.map_filterMap, List.filterMap_map]
    refine List.filterMap_eq_map_iff_forall_eq_some.mpr fun item hitem ↦ ?_
    have h := List.mem_zipIdx_iff_getElem?.mp (hitems.subset hitem)
    rwa [List.getElem?_map] at h
  rw [Choice.extend, hsum, zero_add, total, hmap]

/-- Every legal part of the values is one of the choices. -/
theorem exists_mem_choicesFrom (weight : α → φ) (hT : LegalPart p values T) :
    ∃ c ∈ choicesFrom (tableOf p values).cell (values.map weight).zipIdx ⟨0, []⟩,
      c.weight = total weight T ∧ valuesAt values c.members = T := by
  obtain ⟨places, hplaces, rfl⟩ := exists_places hT.sublist
  have hsub : places.Sublist ((values.map weight).zipIdx.map Prod.snd) := by
    rwa [List.zipIdx_map_snd, List.length_map, ← List.range_eq_range']
  obtain ⟨items, hitems, rfl⟩ := List.sublist_map_iff.mp hsub
  have hlegal := (legal_iff_legalPart hplaces).mpr hT
  exact ⟨_, mem_choicesFrom.mpr ⟨items, hitems, hlegal, rfl⟩, weight_extend hitems, rfl⟩

variable [LinearOrder φ]

theorem weight_best (p : α → α → Bool) (weight : α → φ) (values : List α) :
    (searchAll (tableOf p values).cell (values.map weight)).best.weight =
      total weight (chosen p (values.map weight) values) := by
  obtain ⟨items, hitems, -, hbest⟩ :=
    searchAll_best (tableOf p values).cell (values.map weight)
  rw [chosen, hbest, weight_extend hitems]
  rfl

/-- The exhaustive search chooses one of the heaviest legal parts. -/
theorem total_le_total_chosen (weight : α → φ) (hT : LegalPart p values T) :
    total weight T ≤ total weight (chosen p (values.map weight) values) := by
  obtain ⟨c, hc, hweight, -⟩ := exists_mem_choicesFrom weight hT
  rw [← hweight, ← weight_best, searchAll, searchFrom_eq_foldl]
  exact (Progress.foldl_consider_linear _ _).2.1 c hc

/-- Of the heaviest legal parts the search chooses the first, unless it chooses nothing. -/
theorem chosen_precedesIn (hv : values.Nodup) (hT : LegalPart p values T)
    (heq : total weight T = total weight (chosen p (values.map weight) values))
    (hne : T ≠ chosen p (values.map weight) values) :
    chosen p (values.map weight) values = [] ∨
      PrecedesIn values (chosen p (values.map weight) values) T := by
  obtain ⟨c, hc, hweight, rfl⟩ := exists_mem_choicesFrom weight hT
  rw [← hweight, ← weight_best] at heq
  rw [chosen] at hne ⊢
  rcases searchAll_first hc heq with hbest | rfl | hprecedes
  · rw [hbest]
    exact .inl rfl
  · exact absurd rfl hne
  · have hplaces := members_sublist (tableOf p values).cell (values.map weight)
    rw [List.length_map] at hplaces
    exact .inr (hprecedes.precedesIn hv hplaces)

variable [IsOrderedAddMonoid φ]

/-- If the weights of some values add up to nothing, but none of them is nothing, then one is
positive. -/
theorem exists_pos_of_total_eq_zero (hne : T ≠ []) (hzero : ∀ a ∈ T, weight a ≠ 0)
    (htotal : total weight T = 0) : ∃ a ∈ T, 0 < weight a := by
  by_contra hnone
  push Not at hnone
  have hneg : ∀ a ∈ T, weight a < 0 := fun a ha ↦ lt_of_le_of_ne (hnone a ha) (hzero a ha)
  have hlt := List.sum_lt_sum_of_ne_nil hne weight (fun _ ↦ 0) hneg
  rw [← total, htotal, List.map_const', List.sum_replicate, nsmul_zero] at hlt
  exact lt_irrefl 0 hlt

theorem legalPart_singleton {a : α} (ha : a ∈ values) : LegalPart p values [a] :=
  ⟨List.singleton_sublist.mpr ha, List.pairwise_singleton _ _⟩

/-- If every value weighs something, the search chooses the first of the heaviest legal parts. -/
theorem firstHeaviest_chosen (hv : values.Nodup) (hzero : ∀ a ∈ values, weight a ≠ 0) :
    FirstHeaviest p weight values (chosen p (values.map weight) values) where
  part := chosen_legalPart (List.length_map _)
  heaviest _ hT := total_le_total_chosen weight hT
  first T hT heq hne := by
    rcases chosen_precedesIn hv hT heq hne with hnil | hprecedes
    · exfalso
      rw [hnil] at heq hne
      have hnonzero : ∀ a ∈ T, weight a ≠ 0 := fun a ha ↦ hzero a (hT.sublist.subset ha)
      obtain ⟨a, ha, hpos⟩ := exists_pos_of_total_eq_zero hne hnonzero heq
      have hle := total_le_total_chosen (p := p) weight
        (legalPart_singleton (hT.sublist.subset ha))
      rw [hnil, total_cons, total_nil, add_zero] at hle
      exact absurd hpos (not_lt.mpr hle)
    · exact hprecedes

end Exact

/-! ## The run -/

/-- If the values of a selection have labels, the selection has one. -/
theorem Labels.ends_selection {labels : Labels τ α φ} {selected : List α} {fails : Failure → Prop}
    (h : ∀ a ∈ selected, Call.Ends (labels.vertex a) (fun _ ↦ True) fails) :
    Call.Ends (labels.selection selected) (fun _ ↦ True) fails :=
  .map ((Call.Ends.mapM h).mono fun _ _ ↦ trivial)

namespace Exhaustive

section Run

variable [BEq α] [Zero φ] [Add φ] [LT φ] [DecidableLT φ] {labels : Labels τ α φ} {vertices : List α}
variable {conflict : α → α → Call τ Bool} {weighing : Weighing τ α ω φ} {fails : Failure → Prop}

/-- The search answers what it chooses from the different values, with whatever it is told about
their weights.  A single value is answered without a question. -/
theorem find_ends {given : List φ → Prop}
    (hconflict : ∀ a ∈ vertices.eraseDups, ∀ b ∈ vertices.eraseDups,
      Call.Ends (conflict a b) (· = p a b) fails)
    (hweights : Call.Ends (vertices.eraseDups.mapM weighing.number) given fails)
    (hlabels : ∀ a ∈ vertices.eraseDups, Call.Ends (labels.vertex a) (fun _ ↦ True) fails) :
    Call.Ends (find labels vertices conflict weighing)
      (fun S ↦ if vertices.eraseDups.length < 2 then S = vertices.eraseDups
        else ∃ weights, given weights ∧ S = chosen p weights vertices.eraseDups) fails := by
  by_cases hsize : vertices.eraseDups.length < 2
  · simp only [find, hsize, if_true]
    exact .pure rfl
  · simp only [find, hsize, if_false]
    refine (Run.ends_ask hweights).bind fun weights hgiven ↦ ?_
    refine (Run.ends_ask (adjacencyTable_ends hconflict)).bind fun table htable ↦ ?_
    subst htable
    refine (Call.Ends.forM fun c _ ↦ Run.ends_write _).bind fun _ _ ↦ ?_
    refine (Run.ends_journalled ?_).bind fun _ _ ↦ .pure ⟨weights, hgiven, rfl⟩
    have hselected : ∀ a ∈ chosen p weights vertices.eraseDups,
        Call.Ends (labels.vertex a) (fun _ ↦ True) fails := by
      intro a ha
      obtain ⟨i, -, hi⟩ := mem_valuesAt.mp ha
      exact hlabels a (List.mem_of_getElem? hi)
    exact (Run.ends_ask (Labels.ends_selection hselected)).bind fun _ _ ↦ Run.ends_write _

/-- Whatever is known about weights, the search answers an independent set. -/
theorem find_ends_independent [ReflBEq α]
    (hconflict : ∀ a ∈ vertices.eraseDups, ∀ b ∈ vertices.eraseDups,
      Call.Ends (conflict a b) (· = p a b) fails)
    (hsymm : SymmetricOn p vertices.eraseDups)
    (hnumber : ∀ a ∈ vertices.eraseDups, Call.Ends (weighing.number a) (fun _ ↦ True) fails)
    (hlabels : ∀ a ∈ vertices.eraseDups, Call.Ends (labels.vertex a) (fun _ ↦ True) fails) :
    Call.Ends (find labels vertices conflict weighing)
      (Independent p vertices.eraseDups) fails := by
  refine (find_ends hconflict (Call.Ends.mapM hnumber) hlabels).mono fun S hS ↦ ?_
  split at hS
  next hsize =>
    rw [hS]
    exact independent_of_length_lt_two p hsize
  · obtain ⟨weights, hweights, rfl⟩ := hS
    have hlegal := chosen_legalPart (p := p) hweights.length_eq.symm
    exact hlegal.independent (distinct_eraseDups vertices).nodup hsymm

end Run

/-- With exact weights, the search answers what it chooses with them. -/
theorem find_ends_chosen [BEq α] [AddCommGroup φ] [LinearOrder φ] {labels : Labels τ α φ}
    {vertices : List α} {conflict : α → α → Call τ Bool} {weighing : Weighing τ α ω φ}
    {fails : Failure → Prop} {weight : α → φ}
    (hconflict : ∀ a ∈ vertices.eraseDups, ∀ b ∈ vertices.eraseDups,
      Call.Ends (conflict a b) (· = p a b) fails)
    (hnumber : ∀ a ∈ vertices.eraseDups, Call.Ends (weighing.number a) (· = weight a) fails)
    (hlabels : ∀ a ∈ vertices.eraseDups, Call.Ends (labels.vertex a) (fun _ ↦ True) fails) :
    Call.Ends (find labels vertices conflict weighing)
      (· = if vertices.eraseDups.length < 2 then vertices.eraseDups
        else chosen p (vertices.eraseDups.map weight) vertices.eraseDups) fails := by
  refine (find_ends hconflict (Call.Ends.mapM_eq hnumber) hlabels).mono fun S hS ↦ ?_
  split at hS
  next hsize => rw [hS, if_pos hsize]
  next hsize =>
    obtain ⟨weights, rfl, rfl⟩ := hS
    rw [if_neg hsize]

end Exhaustive

end Loadout
