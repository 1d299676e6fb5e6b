import Loadout.Gear.Selection
import Loadout.Proofs.Gear.Reduction
import Loadout.Proofs.Selection.ByComponent

/-!
# What the selection of gear finds

The items become candidates, the candidates are reduced, and from the considered ones the selection
is made: `find_ends` says that a run does this and no more.  So what it selects is a function of the
weights and the slots, `find_ends_selection`.  It can be worn together whatever weights mean,
`independent_choice`, and it is the heaviest selection of the considered ones if they are exact,
`total_le_total_choice`.
-/

namespace Loadout

namespace Gear

variable {τ α σ ω φ : Type}

/-! ## Tables of candidates -/

/-- The table of some candidates can be laid out, or fails in an expected way. -/
def Tabled (w : Wardrobe τ α σ ω φ) (candidates : List (Candidate α σ φ)) (fails : Failure → Prop) :
    Prop :=
  w.tabulate.Ends tableHeads (candidates.mapM (candidateRow w)) fails

/-- If every table can be laid out, it is enough that the items and their slots can be printed. -/
theorem Tabled.of_total {w : Wardrobe τ α σ ω φ} {candidates : List (Candidate α σ φ)}
    {fails : Failure → Prop} (htotal : ∀ heads rows, w.tabulate heads rows = .ok ())
    (hlabels : ∀ c ∈ candidates, Call.Ends (w.labels.vertex c.item) (fun _ ↦ True) fails)
    (hslotLabels : ∀ c ∈ candidates, ∀ s ∈ c.slots,
      Call.Ends (w.slotLabel s) (fun _ ↦ True) fails) : Tabled w candidates fails := by
  have hrow : ∀ c ∈ candidates, Call.Ends (candidateRow w c) (fun _ ↦ True) fails :=
    fun c hc ↦ (hlabels c hc).bind fun _ _ ↦
      (Call.Ends.mapM (hslotLabels c hc)).bind fun _ _ ↦ .pure trivial
  exact Tabulator.Ends.of_total htotal ((Call.Ends.mapM hrow).mono fun _ _ ↦ trivial)

/-! ## Candidates -/

instance [BEq α] [ReflBEq α] : ReflBEq (Candidate α σ φ) where
  rfl {c} := (BEq.rfl : (c.item == c.item) = true)

section Candidates

variable [BEq σ] {weight : α → φ} {slotsOf : α → List σ} {items : List α}

/-- The candidate that an item makes. -/
def candidateOf (weight : α → φ) (slotsOf : α → List σ) (a : α) : Candidate α σ φ :=
  ⟨a, weight a, (slotsOf a).eraseDups⟩

theorem candidatesOf_ends {w : Wardrobe τ α σ ω φ} {fails : Failure → Prop}
    (hweights : ∀ a ∈ items, Call.Ends (w.weighing.number a) (· = weight a) fails)
    (hslots : ∀ a ∈ items, Call.Ends (w.slots a) (· = slotsOf a) fails) :
    Call.Ends (candidatesOf w items) (· = items.map (candidateOf weight slotsOf)) fails := by
  refine (Call.Ends.mapM_eq hweights).bind fun weights hweights ↦ ?_
  refine (Call.Ends.mapM_eq hslots).bind fun slots hslots ↦ .pure ?_
  subst hweights hslots
  clear hweights hslots
  induction items with
  | nil => rfl
  | cons a items ih =>
    simp only [List.map_cons, List.zip_cons_cons]
    rw [ih]
    rfl

theorem mem_candidates {c : Candidate α σ φ} (h : c ∈ items.map (candidateOf weight slotsOf)) :
    c.item ∈ items ∧ c = candidateOf weight slotsOf c.item := by
  obtain ⟨a, ha, rfl⟩ := List.mem_map.mp h
  exact ⟨ha, rfl⟩

theorem distinct_slots_candidates (weight : α → φ) (slotsOf : α → List σ) (items : List α) :
    ∀ c ∈ items.map (candidateOf weight slotsOf), Distinct c.slots := by
  intro c hc
  rw [(mem_candidates hc).2]
  exact distinct_eraseDups _

theorem total_items [AddCommMonoid φ] {S : List (Candidate α σ φ)}
    (h : S ⊆ items.map (candidateOf weight slotsOf)) :
    total weight (S.map (·.item)) = total (·.weight) S := by
  rw [total, total, List.map_map]
  refine congrArg List.sum (List.map_congr_left fun c hc ↦ ?_)
  rw [(mem_candidates (h hc)).2]
  rfl

/-- Different candidates with different slots are different items. -/
theorem Winners.distinct [BEq α] [EquivBEq α] [Zero φ] [LE φ] {best : List (Candidate α σ φ)}
    (h : Winners (items.map (candidateOf weight slotsOf)) best) (hitems : Distinct items) :
    Distinct best := by
  refine h.apart.imp_of_mem fun {c d} hc hd hcd ↦ ?_
  obtain ⟨hci, hce⟩ := mem_candidates (h.subset hc)
  obtain ⟨hdi, hde⟩ := mem_candidates (h.subset hd)
  by_contra heq
  have hbeq : (d.item == c.item) = true := Bool.of_not_eq_false heq
  have hitem : c.item = d.item := hitems.eq_of_beq hci hdi hbeq
  rw [hce, hde, hitem] at hcd
  exact hcd rfl

variable [EquivBEq σ]

theorem clash_candidateOf (a b : α) :
    clash (candidateOf weight slotsOf a) (candidateOf weight slotsOf b) =
      shareSlot (slotsOf a) (slotsOf b) := by
  rw [Bool.eq_iff_iff, clash, shareSlot_iff, shareSlot_iff, candidateOf, candidateOf,
    occupied_eraseDups, occupied_eraseDups]

/-- What can be worn together as candidates can be worn together as items. -/
theorem independent_items {S : List (Candidate α σ φ)}
    (h : Independent clash (items.map (candidateOf weight slotsOf)) S) :
    Independent (fun a b ↦ shareSlot (slotsOf a) (slotsOf b)) items (S.map (·.item)) where
  subset a ha := by
    obtain ⟨c, hc, rfl⟩ := List.mem_map.mp ha
    exact (mem_candidates (h.subset hc)).1
  nodup := by
    refine List.Nodup.map_on (fun c hc d hd heq ↦ ?_) h.nodup
    rw [(mem_candidates (h.subset hc)).2, (mem_candidates (h.subset hd)).2, heq]
  apart a ha b hb hab := by
    obtain ⟨c, hc, rfl⟩ := List.mem_map.mp ha
    obtain ⟨d, hd, rfl⟩ := List.mem_map.mp hb
    have hcd : c ≠ d := fun heq ↦ hab (congrArg _ heq)
    have happart := h.apart c hc d hd hcd
    rwa [(mem_candidates (h.subset hc)).2, (mem_candidates (h.subset hd)).2,
      clash_candidateOf] at happart

theorem independent_candidates {T : List α}
    (h : Independent (fun a b ↦ shareSlot (slotsOf a) (slotsOf b)) items T) :
    Independent clash (items.map (candidateOf weight slotsOf))
      (T.map (candidateOf weight slotsOf)) where
  subset := List.map_subset _ h.subset
  nodup := List.Nodup.map (fun _ _ heq ↦ congrArg Candidate.item heq) h.nodup
  apart c hc d hd hcd := by
    obtain ⟨a, ha, rfl⟩ := List.mem_map.mp hc
    obtain ⟨b, hb, rfl⟩ := List.mem_map.mp hd
    rw [clash_candidateOf]
    exact h.apart a ha b hb fun heq ↦ hcd (congrArg _ heq)

end Candidates

/-! ## The choice between considered candidates -/

section Choose

variable [BEq σ] [EquivBEq σ] {w : Wardrobe τ α σ ω φ} {limit : SizeLimit}
variable {candidates : List (Candidate α σ φ)} {fails : Failure → Prop}

/-- Candidates that occupy a single slot each, all different ones, can be worn together. -/
theorem independent_of_single (hsingle : ∀ c ∈ candidates, c.slots.length = 1)
    (hapart : candidates.Pairwise fun c d ↦ occupied c.slots ≠ occupied d.slots) :
    Independent clash candidates candidates := by
  refine independent_of_disjoint (List.Subset.refl _) (fun c hc ↦ ?_)
    (hapart.imp_of_mem fun {c d} hc hd hcd ↦ ?_)
  · obtain ⟨slot, hslot⟩ := List.length_eq_one_iff.mp (hsingle c hc)
    rw [hslot]
    exact ⟨slot, mem_occupied List.mem_cons_self⟩
  · obtain ⟨slot, hslot⟩ := List.length_eq_one_iff.mp (hsingle c hc)
    obtain ⟨other, hother⟩ := List.length_eq_one_iff.mp (hsingle d hd)
    rw [hslot, hother] at hcd ⊢
    refine disjoint_of_ne (Bool.eq_false_iff.mpr fun heq ↦ hcd ?_)
    ext s
    rw [mem_occupied_singleton, mem_occupied_singleton]
    exact ⟨fun h ↦ BEq.trans h heq, fun h ↦ BEq.trans h (BEq.symm heq)⟩

/-- What is chosen from candidates: all, if they occupy a single slot each, and otherwise what the
components of those that share slots give. -/
def choice [Zero φ] [Add φ] [LE φ] [DecidableLE φ] [LT φ] [DecidableLT φ]
    (candidates : List (Candidate α σ φ)) : List (Candidate α σ φ) :=
  if candidates.all (·.slots.length == 1) then candidates
  else united clash (·.weight) (fun c d ↦ decide (d.weight ≤ c.weight)) candidates

/-- Whatever weights mean, what is chosen can be worn together. -/
theorem independent_choice [Zero φ] [Add φ] [LE φ] [DecidableLE φ] [LT φ] [DecidableLT φ]
    (hnodup : candidates.Nodup)
    (hapart : candidates.Pairwise fun c d ↦ occupied c.slots ≠ occupied d.slots) :
    Independent clash candidates (choice candidates) := by
  unfold choice
  split
  next hsingle =>
    simp only [List.all_eq_true, beq_iff_eq] at hsingle
    exact independent_of_single hsingle hapart
  · exact independent_united _ _ hnodup (symmetricOn_clash _)

/-- If weights are exact and none is negative, nothing heavier can be worn together. -/
theorem total_le_total_choice [AddCommGroup φ] [LinearOrder φ] [IsOrderedAddMonoid φ]
    (hnodup : candidates.Nodup) (hweight : ∀ c ∈ candidates, 0 ≤ c.weight)
    {T : List (Candidate α σ φ)} (hT : Independent clash candidates T) :
    total (·.weight) T ≤ total (·.weight) (choice candidates) := by
  unfold choice
  split
  · exact total_le_of_nonneg hnodup hT.nodup hT.subset hweight
  · rw [← solution_eq_united]
    exact total_le_total_solution_of_nonneg hnodup (symmetricOn_clash _) hweight hT

variable [BEq α]

/-- What the solver selects from candidates, two of them being in conflict when they share a
slot. -/
def solve [Zero φ] [Add φ] [LE φ] [DecidableLE φ] [LT φ] [DecidableLT φ] (w : Wardrobe τ α σ ω φ)
    (limit : SizeLimit) (candidates : List (Candidate α σ φ)) :
    Run τ (List (Candidate α σ φ)) :=
  ByComponent.find (candidateLabels w) limit candidates
    (fun c d ↦ pure (shareSlot c.slots d.slots)) (.known (·.weight))

omit [EquivBEq σ] in
/-- Whatever weights mean, the solver unites what it picks from the components. -/
theorem solve_ends_united [Zero φ] [Add φ] [LE φ] [DecidableLE φ] [LT φ] [DecidableLT φ]
    (hdistinct : Distinct candidates)
    (hlabels : ∀ c ∈ candidates, Call.Ends (w.labels.vertex c.item) (fun _ ↦ True) fails)
    (hlimit : ∀ n e, limit.exceededBy n = .error e → fails e) :
    Call.Ends (solve w limit candidates)
      (· = united clash (·.weight) (fun c d ↦ decide (d.weight ≤ c.weight)) candidates) fails := by
  have hvalues := hdistinct.eraseDups_eq
  have h : Call.Ends (solve w limit candidates)
      (· = united clash (·.weight) (fun c d ↦ decide (d.weight ≤ c.weight)) candidates.eraseDups)
      fails :=
    ByComponent.find_ends_united (fun _ _ _ _ ↦ .pure rfl) (fun _ _ ↦ .pure rfl)
      (fun _ _ _ _ ↦ .pure rfl) (by rwa [hvalues]) hlimit
  rwa [hvalues] at h

omit [EquivBEq σ] in
/-- Whatever weights mean, the candidates decide what is chosen. -/
theorem choose_ends_choice [Zero φ] [Add φ] [LE φ] [DecidableLE φ] [LT φ] [DecidableLT φ]
    (hdistinct : Distinct candidates)
    (hlabels : ∀ c ∈ candidates, Call.Ends (w.labels.vertex c.item) (fun _ ↦ True) fails)
    (hlimit : ∀ n e, limit.exceededBy n = .error e → fails e) :
    Call.Ends (choose w limit candidates) (· = choice candidates) fails := by
  unfold choose choice
  split
  next hsize =>
    refine .pure ?_
    split
    · rfl
    · rw [united_of_length_lt_two hsize]
  · split
    · exact .pure rfl
    · exact solve_ends_united hdistinct hlabels hlimit

end Choose

/-! ## The run -/

section Run

variable [BEq α] [BEq σ] {w : Wardrobe τ α σ ω φ} {limit : SizeLimit} {items : List α}
variable {weight : α → φ} {slotsOf : α → List σ} {fails : Failure → Prop}

/-- The candidates of different items that are considered. -/
def finalists [Zero φ] [Add φ] [LE φ] [DecidableLE φ] [LT φ] [DecidableLT φ] (absent : α → Bool)
    (weight : α → φ) (slotsOf : α → List σ) (items : List α) : List (Candidate α σ φ) :=
  considered absent (bestPerSlotSet absent (items.map (candidateOf weight slotsOf)))

/-- A run reduces the candidates that the different items make, and chooses between the considered
ones. -/
theorem find_ends [Zero φ] [Add φ] [LE φ] [DecidableLE φ] [LT φ] [DecidableLT φ]
    {chosen : List (Candidate α σ φ) → Prop}
    (hweights : ∀ a ∈ items.eraseDups, Call.Ends (w.weighing.number a) (· = weight a) fails)
    (hslots : ∀ a ∈ items.eraseDups, Call.Ends (w.slots a) (· = slotsOf a) fails)
    (htable : Tabled w (finalists w.absent weight slotsOf items.eraseDups) fails)
    (hchoose : Call.Ends (choose w limit (finalists w.absent weight slotsOf items.eraseDups))
      chosen fails) :
    Call.Ends (find w limit items) (fun S ↦ ∃ C, chosen C ∧ S = C.map (·.item)) fails := by
  unfold find
  refine (Run.ends_ask (candidatesOf_ends hweights hslots)).bind fun candidates hcandidates ↦ ?_
  subst hcandidates
  refine (Run.ends_write _).bind fun _ _ ↦ (Run.ends_write _).bind fun _ _ ↦ ?_
  refine (Run.ends_journalled ?_).bind fun _ _ ↦ hchoose.bind fun C hC ↦ .pure ⟨C, hC, rfl⟩
  refine (Run.ends_ask htable).bind fun _ hrows ↦ ?_
  exact (Run.ends_write _).bind fun _ _ ↦ Tabulator.ends_write hrows

/-- What is selected from different items. -/
def selection [Zero φ] [Add φ] [LE φ] [DecidableLE φ] [LT φ] [DecidableLT φ] (absent : α → Bool)
    (weight : α → φ) (slotsOf : α → List σ) (items : List α) : List α :=
  (choice (finalists absent weight slotsOf items)).map (·.item)

variable [EquivBEq α] [EquivBEq σ]

omit [BEq α] [EquivBEq α] in
/-- The considered candidates occupy different slots and weigh something. -/
theorem winners_finalists [Zero φ] [Add φ] [LE φ] [DecidableLE φ] [LT φ] [DecidableLT φ]
    (absent : α → Bool) (weight : α → φ) (slotsOf : α → List σ) (items : List α) :
    Winners (items.map (candidateOf weight slotsOf)) (finalists absent weight slotsOf items) :=
  (winners_bestPerSlotSet absent (distinct_slots_candidates weight slotsOf items)).sublist
    (considered_sublist absent _)

/-- Whatever weights mean, what is chosen from winners can be worn together. -/
theorem Winners.independent_choice [Zero φ] [Add φ] [LE φ] [DecidableLE φ] [LT φ] [DecidableLT φ]
    {best : List (Candidate α σ φ)} (h : Winners (items.map (candidateOf weight slotsOf)) best)
    (hitems : Distinct items) : Independent clash best (choice best) :=
  Gear.independent_choice (h.distinct hitems).nodup h.apart

/-- Whatever weights mean, the different items decide what is selected. -/
theorem find_ends_selection [Zero φ] [Add φ] [LE φ] [DecidableLE φ] [LT φ] [DecidableLT φ]
    (hweights : ∀ a ∈ items.eraseDups, Call.Ends (w.weighing.number a) (· = weight a) fails)
    (hslots : ∀ a ∈ items.eraseDups, Call.Ends (w.slots a) (· = slotsOf a) fails)
    (hlabels : ∀ a ∈ items.eraseDups, Call.Ends (w.labels.vertex a) (fun _ ↦ True) fails)
    (htable : Tabled w (finalists w.absent weight slotsOf items.eraseDups) fails)
    (hlimit : ∀ n e, limit.exceededBy n = .error e → fails e) :
    Call.Ends (find w limit items) (· = selection w.absent weight slotsOf items.eraseDups)
      fails := by
  have hbest := winners_finalists w.absent weight slotsOf items.eraseDups
  have hchoose := choose_ends_choice (hbest.distinct (distinct_eraseDups items))
    (fun c hc ↦ hlabels _ (mem_candidates (hbest.subset hc)).1) hlimit
  refine (find_ends hweights hslots htable hchoose).mono fun S hS ↦ ?_
  obtain ⟨C, rfl, rfl⟩ := hS
  rfl

/-- Whatever weights mean, what is selected can be worn together, and nothing of it has a weight of
zero or less. -/
theorem independent_selection [Zero φ] [Add φ] [LE φ] [DecidableLE φ] [LT φ] [DecidableLT φ]
    (hdistinct : Distinct items) (absent : α → Bool) (weight : α → φ) (slotsOf : α → List σ) :
    Independent (fun a b ↦ shareSlot (slotsOf a) (slotsOf b)) items
        (selection absent weight slotsOf items) ∧
      ∀ a ∈ selection absent weight slotsOf items, ¬ weight a ≤ 0 := by
  have hbest := winners_finalists absent weight slotsOf items
  have hchoice := hbest.independent_choice hdistinct
  refine ⟨independent_items (hchoice.mono hbest.subset), fun a ha ↦ ?_⟩
  obtain ⟨c, hc, rfl⟩ := List.mem_map.mp ha
  have hpositive := hbest.positive c (hchoice.subset hc)
  rwa [(mem_candidates (hbest.subset (hchoice.subset hc))).2] at hpositive

/-- What is selected is considered. -/
theorem candidateOf_mem_of_mem_selection [Zero φ] [Add φ] [LE φ] [DecidableLE φ] [LT φ]
    [DecidableLT φ] (hdistinct : Distinct items) {absent : α → Bool} {a : α}
    (ha : a ∈ selection absent weight slotsOf items) :
    candidateOf weight slotsOf a ∈ finalists absent weight slotsOf items := by
  have hbest := winners_finalists absent weight slotsOf items
  obtain ⟨c, hc, rfl⟩ := List.mem_map.mp ha
  have hmem := (hbest.independent_choice hdistinct).subset hc
  rwa [← (mem_candidates (hbest.subset hmem)).2]

/-- What is selected is the best for its set of slots. -/
theorem candidateOf_mem_bestPerSlotSet [Zero φ] [Add φ] [LE φ] [DecidableLE φ] [LT φ]
    [DecidableLT φ] (hdistinct : Distinct items) {absent : α → Bool} {a : α}
    (ha : a ∈ selection absent weight slotsOf items) :
    candidateOf weight slotsOf a ∈
      bestPerSlotSet absent (items.map (candidateOf weight slotsOf)) :=
  (considered_sublist absent _).subset (candidateOf_mem_of_mem_selection hdistinct ha)

/-- Whatever weights mean, the selected items can be worn together, and none of them has a weight of
zero or less. -/
theorem find_ends_independent [Zero φ] [Add φ] [LE φ] [DecidableLE φ] [LT φ] [DecidableLT φ]
    (hweights : ∀ a ∈ items.eraseDups, Call.Ends (w.weighing.number a) (· = weight a) fails)
    (hslots : ∀ a ∈ items.eraseDups, Call.Ends (w.slots a) (· = slotsOf a) fails)
    (hlabels : ∀ a ∈ items.eraseDups, Call.Ends (w.labels.vertex a) (fun _ ↦ True) fails)
    (htable : Tabled w (finalists w.absent weight slotsOf items.eraseDups) fails)
    (hlimit : ∀ n e, limit.exceededBy n = .error e → fails e) :
    Call.Ends (find w limit items)
      (fun S ↦ Independent (fun a b ↦ shareSlot (slotsOf a) (slotsOf b)) items.eraseDups S ∧
        ∀ a ∈ S, ¬ weight a ≤ 0) fails := by
  refine (find_ends_selection hweights hslots hlabels htable hlimit).mono fun S hS ↦ ?_
  rw [hS]
  exact independent_selection (distinct_eraseDups items) w.absent weight slotsOf

end Run

end Gear

end Loadout
