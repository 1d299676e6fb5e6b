import Loadout.Proofs.Gear.Slots
import Loadout.Proofs.Selection.Independent
import Mathlib.Data.List.Induction

/-!
# What the reductions keep

Of the candidates that occupy the same slots one is kept, and only if it weighs something: `Winners`
is what every step of the reduction preserves, `Winners.consider`, whatever comparisons of weights
mean.

If every candidate has a winner that is at least as heavy, `Covers`, a set of candidates that can be
worn together is turned into one of winners by an exchange: a candidate gives way to the winner for
its slots, or, if that one is dominated, to the winners for each of its slots, `exists_replacement`.
So nothing is lost by the reductions, `exists_considered`.
-/

namespace Loadout.Gear

variable {α σ φ : Type} [BEq σ] {candidates best : List (Candidate α σ φ)}
variable {c d : Candidate α σ φ} {slots : List σ}

/-! ## Winners for slots -/

theorem winner?_eq_some (h : winner? best slots = some c) :
    c ∈ best ∧ sameSlots slots c.slots = true :=
  ⟨List.mem_of_find?_eq_some h,
    List.find?_some (p := fun c : Candidate α σ φ ↦ sameSlots slots c.slots) h⟩

theorem winner?_eq_none (h : winner? best slots = none) (hd : d ∈ best) :
    ¬ sameSlots slots d.slots = true :=
  List.find?_eq_none.mp h d hd

theorem mem_replaceWinner (h : d ∈ replaceWinner best c) : d = c ∨ d ∈ best := by
  obtain ⟨b, hb, rfl⟩ := List.mem_map.mp h
  split
  · exact .inl rfl
  · exact .inr hb

/-! ## Winners for single slots -/

/-- The winners for single slots. -/
def singles (best : List (Candidate α σ φ)) (slots : List σ) : List (Candidate α σ φ) :=
  slots.filterMap fun slot ↦ winner? best [slot]

theorem singles_cons (best : List (Candidate α σ φ)) (slot : σ) (slots : List σ) :
    singles best (slot :: slots) = (winner? best [slot]).toList ++ singles best slots := by
  cases h : winner? best [slot] with
  | none => simp [singles, h]
  | some single => simp [singles, h]

theorem mem_of_mem_singles (h : c ∈ singles best slots) : c ∈ best := by
  obtain ⟨slot, -, hwinner⟩ := List.mem_filterMap.mp h
  exact (winner?_eq_some hwinner).1

theorem considered_sublist [Zero φ] [Add φ] [LE φ] [DecidableLE φ] (absent : α → Bool)
    (best : List (Candidate α σ φ)) : (considered absent best).Sublist best :=
  List.filter_sublist

section Separate

variable [AddCommGroup φ] {absent : α → Bool}

theorem foldl_eq_total_singles {f : φ → σ → φ} {p : Candidate α σ φ → Bool}
    (hf : ∀ sum slot, f sum slot =
      sum + total (·.weight) ((winner? best [slot]).toList.filter p)) (sum : φ) :
    slots.foldl f sum = sum + total (·.weight) ((singles best slots).filter p) := by
  induction slots generalizing sum with
  | nil => simp [singles]
  | cons slot slots ih =>
    rw [List.foldl_cons, ih, hf, singles_cons, List.filter_append, total_append, add_assoc]

/-- Separate items weigh what the winners for the single slots that are present weigh together. -/
theorem separateWeight_eq_present (absent : α → Bool) (best : List (Candidate α σ φ))
    (slots : List σ) : separateWeight absent best slots =
      total (·.weight) ((singles best slots).filter fun single ↦ !absent single.item) := by
  rw [separateWeight, foldl_eq_total_singles, zero_add]
  intro sum slot
  cases winner? best [slot] with
  | none => simp
  | some single => cases h : absent single.item <;> simp [h]

/-- Separate items weigh what the winners for the single slots weigh together. -/
theorem separateWeight_eq (hpresent : ∀ c ∈ best, absent c.item = false) :
    separateWeight absent best slots = total (·.weight) (singles best slots) := by
  rw [separateWeight_eq_present, List.filter_eq_self.mpr]
  exact fun single h ↦ by simp [hpresent single (mem_of_mem_singles h)]

/-- A winner for a single slot is not dominated. -/
theorem mem_considered_of_single [LinearOrder φ] {slot : σ} (h : winner? best [slot] = some c) :
    c ∈ considered absent best := by
  obtain ⟨hc, hsame⟩ := winner?_eq_some h
  have hlength : c.slots.length = 1 := by
    simp only [sameSlots, Bool.and_eq_true, beq_iff_eq] at hsame
    exact hsame.1.symm
  exact List.mem_filter.mpr ⟨hc, by simp [isDominated, hlength]⟩

end Separate

/-! ## What every step preserves -/

/-- What the winners so far have in common, whatever weights mean. -/
structure Winners [Zero φ] [LE φ] (candidates best : List (Candidate α σ φ)) : Prop where
  subset : best ⊆ candidates
  positive : ∀ c ∈ best, ¬ c.weight ≤ 0
  apart : best.Pairwise fun c d ↦ occupied c.slots ≠ occupied d.slots

namespace Winners

variable [Zero φ] [LE φ] (h : Winners candidates best)
include h

theorem distinct_slots (hslots : ∀ c ∈ candidates, Distinct c.slots) :
    ∀ c ∈ best, Distinct c.slots :=
  fun c hc ↦ hslots c (h.subset hc)

theorem sublist {left : List (Candidate α σ φ)} (hleft : left.Sublist best) :
    Winners candidates left where
  subset := List.Subset.trans hleft.subset h.subset
  positive c hc := h.positive c (hleft.subset hc)
  apart := h.apart.sublist hleft

theorem eq_of_occupied_eq (hc : c ∈ best) (hd : d ∈ best)
    (heq : occupied c.slots = occupied d.slots) : c = d := by
  by_contra hne
  have : Std.Symm fun c d : Candidate α σ φ ↦ occupied c.slots ≠ occupied d.slots :=
    ⟨fun _ _ ↦ Ne.symm⟩
  exact h.apart.forall hc hd hne heq

end Winners

/-- Every candidate that weighs something has a winner for its slots that is at least as heavy. -/
def Covers [Zero φ] [LE φ] [LT φ] (candidates best : List (Candidate α σ φ)) : Prop :=
  ∀ c ∈ candidates, 0 < c.weight →
    ∃ b ∈ best, occupied b.slots = occupied c.slots ∧ c.weight ≤ b.weight

variable [EquivBEq σ]

theorem occupied_replace (hc : Distinct c.slots) (hd : Distinct d.slots) :
    occupied (if sameSlots c.slots d.slots then c else d).slots = occupied d.slots := by
  split
  next h => exact (sameSlots_iff hc hd).mp h
  · rfl

section Step

variable [Zero φ] [LE φ] [DecidableLE φ] [LT φ] [DecidableLT φ]

/-- One more candidate is considered. -/
theorem Winners.consider (h : Winners candidates best) (absent : α → Bool)
    (hslots : ∀ c ∈ candidates, Distinct c.slots) (hc : Distinct c.slots) :
    Winners (candidates ++ [c]) (Gear.consider absent best c) := by
  have hbest := h.distinct_slots hslots
  have hleft : best ⊆ candidates ++ [c] := List.subset_append_of_subset_left _ h.subset
  have hself : c ∈ candidates ++ [c] := List.mem_append_right _ List.mem_cons_self
  unfold Gear.consider
  split
  · exact ⟨hleft, h.positive, h.apart⟩
  next hpositive =>
    split
    next hnone =>
      refine ⟨List.append_subset.mpr ⟨hleft, by simp⟩, fun d hd ↦ ?_, ?_⟩
      · rcases List.mem_append.mp hd with hd | hd
        · exact h.positive d hd
        · exact List.mem_singleton.mp hd ▸ hpositive
      · refine List.pairwise_append.mpr ⟨h.apart, List.pairwise_singleton _ _, fun d hd e he ↦ ?_⟩
        obtain rfl := List.mem_singleton.mp he
        intro heq
        exact winner?_eq_none hnone hd ((sameSlots_iff hc (hbest d hd)).mpr heq.symm)
    · split
      · refine ⟨fun d hd ↦ ?_, fun d hd ↦ ?_, ?_⟩
        · rcases mem_replaceWinner hd with rfl | hd
          · exact hself
          · exact hleft hd
        · rcases mem_replaceWinner hd with rfl | hd
          · exact hpositive
          · exact h.positive d hd
        · refine List.pairwise_map.mpr (h.apart.imp_of_mem fun {d e} hd he hde ↦ ?_)
          rwa [occupied_replace hc (hbest d hd), occupied_replace hc (hbest e he)]
      · exact ⟨hleft, h.positive, h.apart⟩

theorem winners_bestPerSlotSet (absent : α → Bool) (hslots : ∀ c ∈ candidates, Distinct c.slots) :
    Winners candidates (bestPerSlotSet absent candidates) := by
  induction candidates using List.reverseRecOn with
  | nil => exact ⟨List.Subset.refl _, by simp [bestPerSlotSet], .nil⟩
  | append_singleton candidates c ih =>
    rw [bestPerSlotSet, List.foldl_append]
    refine (ih fun d hd ↦ hslots d (List.mem_append_left _ hd)).consider absent ?_ ?_
    · exact fun d hd ↦ hslots d (List.mem_append_left _ hd)
    · exact hslots c (List.mem_append_right _ List.mem_cons_self)

end Step

/-! ## The exchange -/

/-- Whether two candidates cannot be worn together. -/
def clash (c d : Candidate α σ φ) : Bool :=
  shareSlot c.slots d.slots

theorem symmetricOn_clash (candidates : List (Candidate α σ φ)) :
    SymmetricOn clash candidates :=
  List.pairwise_of_forall fun c d ↦ shareSlot_comm c.slots d.slots

/-- Candidates of which no two have a slot in common, and each of which has a slot, can be worn
together. -/
theorem independent_of_disjoint {S : List (Candidate α σ φ)} (hsub : S ⊆ candidates)
    (hnonempty : ∀ c ∈ S, (occupied c.slots).Nonempty)
    (h : S.Pairwise fun c d ↦ Disjoint (occupied c.slots) (occupied d.slots)) :
    Independent clash candidates S where
  subset := hsub
  nodup := h.imp_of_mem fun {c d} hc _ hcd heq ↦ by
    obtain ⟨s, hs⟩ := hnonempty c hc
    exact Set.disjoint_left.mp hcd hs (heq ▸ hs)
  apart := by
    have : Std.Symm fun c d : Candidate α σ φ ↦ Disjoint (occupied c.slots) (occupied d.slots) :=
      ⟨fun _ _ h ↦ h.symm⟩
    exact fun c hc d hd hcd ↦ shareSlot_eq_false_iff.mpr (h.forall hc hd hcd)

theorem disjoint_of_ne {slot other : σ} (h : (slot == other) = false) :
    Disjoint (occupied [slot]) (occupied [other]) := by
  refine Set.disjoint_left.mpr fun s hs hs' ↦ ?_
  have heq := BEq.trans (BEq.symm (mem_occupied_singleton.mp hs)) (mem_occupied_singleton.mp hs')
  rw [h] at heq
  exact Bool.noConfusion heq

theorem occupied_of_winner (hbest : ∀ c ∈ best, Distinct c.slots) {slot : σ}
    (h : winner? best [slot] = some c) : occupied c.slots = occupied [slot] :=
  ((sameSlots_iff (List.pairwise_singleton _ _) (hbest c (winner?_eq_some h).1)).mp
    (winner?_eq_some h).2).symm

theorem disjoint_singles (hbest : ∀ c ∈ best, Distinct c.slots) (hslots : Distinct slots) :
    (singles best slots).Pairwise fun c d ↦ Disjoint (occupied c.slots) (occupied d.slots) := by
  refine List.pairwise_filterMap.mpr (hslots.imp fun {slot other} hne c hc d hd ↦ ?_)
  rw [occupied_of_winner hbest hc, occupied_of_winner hbest hd]
  exact (disjoint_of_ne hne).symm

section Exchange

variable [AddCommGroup φ] [LinearOrder φ] {absent : α → Bool}

/-- A candidate with slots gives way to considered ones for some of them that are together at least
as heavy. -/
theorem exists_replacement (hbest : Winners candidates best) (hcovers : Covers candidates best)
    (hslots : ∀ c ∈ candidates, Distinct c.slots)
    (hpresent : ∀ c ∈ candidates, absent c.item = false) (hc : c ∈ candidates)
    (hnonempty : (occupied c.slots).Nonempty) :
    ∃ R, Independent clash (considered absent best) R ∧
      (∀ r ∈ R, (occupied r.slots).Nonempty ∧ occupied r.slots ⊆ occupied c.slots) ∧
      c.weight ≤ total (·.weight) R := by
  by_cases hpos : 0 < c.weight
  · obtain ⟨b, hb, hsame, hle⟩ := hcovers c hc hpos
    have hdistinct := hbest.distinct_slots hslots
    by_cases hdominated : isDominated absent best b = true
    -- A winner for a single slot is never dominated, so one exchange is enough.
    · have hsingle : ∀ d ∈ singles best b.slots, d ∈ considered absent best ∧
          (occupied d.slots).Nonempty ∧ occupied d.slots ⊆ occupied c.slots := by
        intro d hd
        obtain ⟨slot, hslot, hwinner⟩ := List.mem_filterMap.mp hd
        refine ⟨mem_considered_of_single hwinner, ?_⟩
        rw [occupied_of_winner hdistinct hwinner, ← hsame]
        exact ⟨⟨slot, mem_occupied List.mem_cons_self⟩, occupied_subset_iff.mpr fun s hs ↦
          mem_occupied (List.mem_singleton.mp hs ▸ hslot)⟩
      refine ⟨singles best b.slots, independent_of_disjoint (fun d hd ↦ (hsingle d hd).1)
        (fun d hd ↦ (hsingle d hd).2.1) (disjoint_singles hdistinct (hdistinct b hb)),
        fun d hd ↦ (hsingle d hd).2, ?_⟩
      rw [isDominated, Bool.and_eq_true, decide_eq_true_eq, decide_eq_true_eq,
        separateWeight_eq fun d hd ↦ hpresent d (hbest.subset hd)] at hdominated
      exact hle.trans hdominated.2
    -- Otherwise the winner `b` is considered itself.
    · refine ⟨[b], ⟨?_, List.nodup_singleton b, by simp⟩, fun d hd ↦ ?_, by simpa using hle⟩
      · exact List.cons_subset.mpr
          ⟨List.mem_filter.mpr ⟨hb, by simpa using hdominated⟩, List.nil_subset _⟩
      · rw [List.mem_singleton.mp hd, hsame]
        exact ⟨hnonempty, Set.Subset.refl _⟩
  · exact ⟨[], ⟨by simp, .nil, by simp⟩, by simp, not_lt.mp hpos⟩

/-- No selection of candidates with slots that can be worn together is heavier than all of
considered ones. -/
theorem exists_considered [IsOrderedAddMonoid φ] (hbest : Winners candidates best)
    (hcovers : Covers candidates best) (hslots : ∀ c ∈ candidates, Distinct c.slots)
    (hpresent : ∀ c ∈ candidates, absent c.item = false) {T : List (Candidate α σ φ)}
    (hT : Independent clash candidates T) (hnonempty : ∀ c ∈ T, (occupied c.slots).Nonempty) :
    ∃ U, Independent clash (considered absent best) U ∧
      (∀ c ∈ U, (occupied c.slots).Nonempty) ∧ total (·.weight) T ≤ total (·.weight) U := by
  have hreplace : ∀ c, c ∈ T → ∃ R, Independent clash (considered absent best) R ∧
      (∀ r ∈ R, (occupied r.slots).Nonempty ∧ occupied r.slots ⊆ occupied c.slots) ∧
      c.weight ≤ total (·.weight) R := fun c hc ↦
    exists_replacement hbest hcovers hslots hpresent (hT.subset hc) (hnonempty c hc)
  choose! R hR hwithin hle using hreplace
  refine ⟨T.flatMap R, .flatMap hT.nodup hR ?_, fun a ha ↦ ?_, total_le_total_flatMap hle⟩
  -- What two members give way to occupies slots of theirs, of which they have none in common.
  · intro c hc d hd hcd a ha b hb
    obtain ⟨⟨s, hs⟩, hac⟩ := hwithin c hc a ha
    have hdisjoint : Disjoint (occupied a.slots) (occupied b.slots) :=
      (shareSlot_eq_false_iff.mp (hT.apart c hc d hd hcd)).mono hac (hwithin d hd b hb).2
    refine ⟨?_, shareSlot_eq_false_iff.mpr hdisjoint⟩
    rintro rfl
    exact Set.disjoint_left.mp hdisjoint hs hs
  · obtain ⟨c, hc, hac⟩ := List.mem_flatMap.mp ha
    exact (hwithin c hc a hac).1

end Exchange

end Loadout.Gear
