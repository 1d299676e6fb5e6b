import Loadout.Proofs.Gear.Exactness
import Mathlib.Algebra.Group.Ext

/-!
# Items that occupy no slot

An item without slots can be worn with everything.  But items without slots occupy the same set of
slots, the empty one, and of those the reduction keeps one: so besides the heaviest selection from
the items with slots, `find_slotless`, the first heaviest item without slots is selected and no
other.  None of positive weight is lost just if there is one at most.
-/

namespace Loadout

/-! ## Sample trinkets -/

namespace Sample

/-- Two items that occupy no slot, and three that do. -/
def trinkets : List Nat := [0, 1, 2, 3, 4]

def trinketSlots (a : Nat) : List Nat :=
  [[], [], [1], [1, 2], [2]].getD a []

def trinketWeight (a : Nat) : Int :=
  [1, 2, 2, 4, 3].getD a 0

def trinketBox : Gear.Wardrobe Unit Nat Nat Int Int where
  weighing := .known trinketWeight
  slots a := pure (trinketSlots a)
  labels := { vertex := fun a ↦ pure (toString a), weight := fun n ↦ toString n }
  slotLabel s := pure (toString s)
  tabulate _ _ := .ok ()
  absent _ := false

end Sample

namespace Gear

variable {τ α σ ω φ : Type} {slotsOf : α → List σ} {items S : List α} {absent : α → Bool}

/-- Whether an item occupies a slot. -/
def hasSlots (slotsOf : α → List σ) (a : α) : Bool :=
  !(slotsOf a).isEmpty

theorem hasSlots_eq_false_iff {a : α} : hasSlots slotsOf a = false ↔ slotsOf a = [] := by
  simp [hasSlots]

theorem hasSlots_eq_true_iff {a : α} : hasSlots slotsOf a = true ↔ slotsOf a ≠ [] := by
  simp [hasSlots]

variable [BEq σ] [EquivBEq σ]

section Candidates

variable {weight : α → φ}

/-- A candidate without slots is in conflict with nothing. -/
theorem clash_eq_false_of_slotless {c d : Candidate α σ φ}
    (hc : c ∈ items.map (candidateOf weight slotsOf))
    (hd : d ∈ items.map (candidateOf weight slotsOf)) (hslotless : slotsOf d.item = []) :
    clash c d = false ∧ clash d c = false := by
  have hnil : ∀ xs : List σ, shareSlot xs [] = false := fun xs ↦ by simp [shareSlot]
  rw [(mem_candidates hc).2, (mem_candidates hd).2, clash_candidateOf, clash_candidateOf,
    shareSlot_comm (slotsOf d.item), hslotless, hnil]
  exact ⟨rfl, rfl⟩

/-- Candidates occupy a slot if their items do. -/
theorem hasSlots_item {c : Candidate α σ φ} (hc : c ∈ items.map (candidateOf weight slotsOf))
    (h : (occupied c.slots).Nonempty) : hasSlots slotsOf c.item = true := by
  rw [(mem_candidates hc).2, candidateOf, occupied_eraseDups] at h
  obtain ⟨s, t, ht, -⟩ := h
  exact hasSlots_eq_true_iff.mpr (List.ne_nil_of_mem ht)

/-- All candidates without slots occupy the same set of slots. -/
theorem occupied_candidateOf_eq_iff {a b : α} (ha : slotsOf a = []) :
    occupied (candidateOf weight slotsOf b).slots = occupied (candidateOf weight slotsOf a).slots ↔
      slotsOf b = [] := by
  rw [candidateOf, candidateOf, occupied_eraseDups, occupied_eraseDups, ha]
  constructor
  · intro heq
    refine List.eq_nil_iff_forall_not_mem.mpr fun s hs ↦ ?_
    obtain ⟨t, ht, -⟩ := heq ▸ mem_occupied hs
    exact absurd ht List.not_mem_nil
  · intro hb
    rw [hb]

end Candidates

section Leads

variable [LinearOrder φ] {weight : α → φ}

/-- Of the candidates without slots one leads if there are any. -/
theorem exists_leads_slotless (weight : α → φ) {a : α} (ha : a ∈ items)
    (hslotless : slotsOf a = []) :
    ∃ b ∈ items, slotsOf b = [] ∧ weight a ≤ weight b ∧
      Leads (items.map (candidateOf weight slotsOf)) (candidateOf weight slotsOf b) := by
  have hmem := List.mem_map_of_mem (f := candidateOf weight slotsOf) ha
  obtain ⟨c, hleads, heq⟩ := exists_leads hmem
  obtain ⟨b, hb, rfl⟩ := List.mem_map.mp hleads.mem
  exact ⟨b, hb, (occupied_candidateOf_eq_iff hslotless).mp heq, hleads.le hmem heq.symm, hleads⟩

/-- There is one leading candidate without slots at most. -/
theorem eq_of_leads_slotless {a b : α} (ha : slotsOf a = []) (hb : slotsOf b = [])
    (hleads : Leads (items.map (candidateOf weight slotsOf)) (candidateOf weight slotsOf a))
    (hleads' : Leads (items.map (candidateOf weight slotsOf)) (candidateOf weight slotsOf b)) :
    a = b :=
  congrArg Candidate.item
    (hleads.eq hleads' ((occupied_candidateOf_eq_iff hb).mpr ha))

end Leads

section Selection

variable [AddCommGroup φ] [LinearOrder φ] {weight : α → φ}

/-- What is selected when items may occupy no slot. -/
structure KeepsOneSlotless (weight : α → φ) (slotsOf : α → List σ) (items S : List α) : Prop where
  independent : Independent (fun a b ↦ shareSlot (slotsOf a) (slotsOf b)) items S
  positive : ∀ a ∈ S, 0 < weight a
  heaviest : ∀ T,
    Independent (fun a b ↦ shareSlot (slotsOf a) (slotsOf b)) (items.filter (hasSlots slotsOf)) T →
      total weight T ≤ total weight (S.filter (hasSlots slotsOf))
  slotless : ∀ a ∈ items, slotsOf a = [] → (a ∈ S ↔
    0 < weight a ∧ Leads (items.map (candidateOf weight slotsOf)) (candidateOf weight slotsOf a))
  complete : (∀ a ∈ items, slotsOf a = [] → 0 < weight a → a ∈ S) ↔
    ∀ a ∈ items, ∀ b ∈ items, slotsOf a = [] → slotsOf b = [] → 0 < weight a → 0 < weight b → a = b

variable [BEq α] [EquivBEq α] [IsOrderedAddMonoid φ]

/-- What is selected of the items with slots is heaviest among them. -/
theorem total_le_total_selection_with_slots (hdistinct : Distinct items)
    (hpresent : ∀ a ∈ items, absent a = false) {T : List α}
    (hT : Independent (fun a b ↦ shareSlot (slotsOf a) (slotsOf b))
      (items.filter (hasSlots slotsOf)) T) :
    total weight T ≤
      total weight ((selection absent weight slotsOf items).filter (hasSlots slotsOf)) := by
  obtain ⟨U, hU, hslots, hle⟩ := exists_considered_with_slots weight hpresent
    (hT.mono List.filter_sublist.subset) fun a ha ↦
      hasSlots_eq_true_iff.mp (List.mem_filter.mp (hT.subset ha)).2
  set left := finalists absent weight slotsOf items
  have hbest : Winners (items.map (candidateOf weight slotsOf)) left :=
    winners_finalists absent weight slotsOf items
  have hsub := hbest.subset
  have hchoice := hbest.independent_choice hdistinct
  have hU' : Independent clash (left.filter (hasSlots slotsOf ·.item)) U :=
    ⟨fun c hc ↦ List.mem_filter.mpr
      ⟨hU.subset hc, hasSlots_item (hsub (hU.subset hc)) (hslots c hc)⟩, hU.nodup, hU.apart⟩
  calc total weight T ≤ total (·.weight) U := hle
    _ ≤ total (·.weight) ((choice left).filter (hasSlots slotsOf ·.item)) :=
        hchoice.total_le_total_filter (fun R hR ↦ hbest.total_le_total_choice hdistinct hR)
          (fun c hc d hd _ hfalse ↦ clash_eq_false_of_slotless (hsub hc) (hsub hd)
            (hasSlots_eq_false_iff.mp hfalse)) hU'
    _ = total weight (((choice left).filter (hasSlots slotsOf ·.item)).map (·.item)) :=
        (total_items fun c hc ↦ hsub (hchoice.subset (List.mem_of_mem_filter hc))).symm
    _ = total weight ((selection absent weight slotsOf items).filter (hasSlots slotsOf)) := by
        rw [selection, List.filter_map]
        rfl

/-- The first heaviest item without slots is selected if it weighs something: its candidate is never
dominated, and could be added to any selection. -/
theorem mem_selection_of_leads_slotless (hdistinct : Distinct items)
    (hpresent : ∀ a ∈ items, absent a = false) {a : α} (hslotless : slotsOf a = [])
    (hpos : 0 < weight a)
    (hleads : Leads (items.map (candidateOf weight slotsOf)) (candidateOf weight slotsOf a)) :
    a ∈ selection absent weight slotsOf items := by
  have hslots := distinct_slots_candidates weight slotsOf items
  have hbest := winners_finalists absent weight slotsOf items
  have hwins : candidateOf weight slotsOf a ∈
      bestPerSlotSet absent (items.map (candidateOf weight slotsOf)) :=
    (mem_bestPerSlotSet_iff hslots fun c hc ↦ hpresent _ (mem_candidates hc).1).mpr ⟨hpos, hleads⟩
  have hconsidered : candidateOf weight slotsOf a ∈ finalists absent weight slotsOf items :=
    List.mem_filter.mpr ⟨hwins, by simp [isDominated, candidateOf, hslotless]⟩
  have hheaviest : ∀ R, Independent clash (finalists absent weight slotsOf items) R →
      total (·.weight) R ≤ total (·.weight) (choice (finalists absent weight slotsOf items)) :=
    fun R hR ↦ hbest.total_le_total_choice hdistinct hR
  have hchosen := (hbest.independent_choice hdistinct).mem_of_heaviest hheaviest hconsidered hpos
    fun c hc _ ↦
      (clash_eq_false_of_slotless (hbest.subset hc) (hbest.subset hconsidered) hslotless).symm
  exact List.mem_map.mpr ⟨_, hchosen, rfl⟩

/-- An item without slots is selected if and only if it is the first heaviest one and weighs
something. -/
theorem mem_selection_slotless_iff (hdistinct : Distinct items)
    (hpresent : ∀ a ∈ items, absent a = false) {a : α} (hslotless : slotsOf a = []) :
    a ∈ selection absent weight slotsOf items ↔ 0 < weight a ∧
      Leads (items.map (candidateOf weight slotsOf)) (candidateOf weight slotsOf a) := by
  constructor
  · intro hmem
    have hwins := candidateOf_mem_bestPerSlotSet hdistinct hmem
    rwa [mem_bestPerSlotSet_iff (distinct_slots_candidates weight slotsOf items)
      fun c hc ↦ hpresent _ (mem_candidates hc).1] at hwins
  · rintro ⟨hpos, hleads⟩
    exact mem_selection_of_leads_slotless hdistinct hpresent hslotless hpos hleads

theorem selection_keepsOneSlotless (hdistinct : Distinct items)
    (hpresent : ∀ a ∈ items, absent a = false) :
    KeepsOneSlotless weight slotsOf items (selection absent weight slotsOf items) where
  independent := (independent_selection hdistinct absent weight slotsOf).1
  positive a ha := not_le.mp ((independent_selection hdistinct absent weight slotsOf).2 a ha)
  heaviest _ hT := total_le_total_selection_with_slots hdistinct hpresent hT
  slotless _ _ hslotless := mem_selection_slotless_iff hdistinct hpresent hslotless
  complete := by
    constructor
    -- All that are selected lead, and one leads at most.
    · intro hall a ha b hb hslots hslots' hpos hpos'
      have hleads := (mem_selection_slotless_iff hdistinct hpresent hslots).mp
        (hall a ha hslots hpos)
      have hleads' := (mem_selection_slotless_iff hdistinct hpresent hslots').mp
        (hall b hb hslots' hpos')
      exact eq_of_leads_slotless hslots hslots' hleads.2 hleads'.2
    -- The only one leads.
    · intro hone a ha hslots hpos
      obtain ⟨b, hb, hslots', hle, hleads⟩ := exists_leads_slotless weight ha hslots
      obtain rfl := hone a ha b hb hslots hslots' hpos (hpos.trans_le hle)
      exact (mem_selection_slotless_iff hdistinct hpresent hslots).mpr ⟨hpos, hleads⟩

end Selection

section Run

variable [BEq α] [EquivBEq α] [AddCommGroup φ] [LinearOrder φ] [IsOrderedAddMonoid φ]
variable {w : Wardrobe τ α σ ω φ} {limit : SizeLimit} {weight : α → φ} {fails : Failure → Prop}

/-- If no item stands for an empty place, the heaviest selection of the items with slots is found,
and besides it the first heaviest item without slots, if that weighs something.  Where an item cannot
be printed or a table cannot be laid out, a run may fail as that does. -/
theorem find_slotless
    (hweights : ∀ a ∈ items.eraseDups, Call.Ends (w.weighing.number a) (· = weight a) fails)
    (hslots : ∀ a ∈ items.eraseDups, Call.Ends (w.slots a) (· = slotsOf a) fails)
    (hpresent : ∀ a ∈ items.eraseDups, w.absent a = false)
    (hlabels : ∀ a ∈ items.eraseDups, Call.Ends (w.labels.vertex a) (fun _ ↦ True) fails)
    (htable : Tabled w (finalists w.absent weight slotsOf items.eraseDups) fails)
    (hlimit : ∀ n e, limit.exceededBy n = .error e → fails e) :
    Call.Ends (find w limit items) (KeepsOneSlotless weight slotsOf items.eraseDups) fails := by
  refine (find_ends_selection hweights hslots hlabels htable hlimit).mono fun S hS ↦ ?_
  rw [hS]
  exact selection_keepsOneSlotless (distinct_eraseDups items) hpresent

theorem find_slotless_sample :
    Call.Ends (find Sample.trinketBox (.ofInt 2) Sample.trinkets)
      (KeepsOneSlotless Sample.trinketWeight Sample.trinketSlots Sample.trinkets.eraseDups)
      fun _ ↦ False :=
  find_slotless (fun _ _ ↦ .pure rfl) (fun _ _ ↦ .pure rfl) (fun _ _ ↦ rfl)
    (fun _ _ ↦ .pure trivial)
    (.of_total (fun _ _ ↦ rfl) (fun _ _ ↦ .pure trivial) fun _ _ _ _ ↦ .pure trivial)
    SizeLimit.exceededBy_two_ne_error

/-- An item without slots that is lighter than another one is not selected. -/
theorem find_slotless_loses :
    (0 ∈ Sample.trinkets ∧ Sample.trinketSlots 0 = [] ∧ 0 < Sample.trinketWeight 0) ∧
      Call.Ends (find Sample.trinketBox (.ofInt 2) Sample.trinkets) (· = [1, 2, 4])
        fun _ ↦ False := by
  refine ⟨by decide, ?_⟩
  have h : Call.Ends (find Sample.trinketBox (.ofInt 2) Sample.trinkets)
      (· = selection Sample.trinketBox.absent Sample.trinketWeight Sample.trinketSlots
        Sample.trinkets.eraseDups) fun _ ↦ False :=
    find_ends_selection (fun _ _ ↦ .pure rfl) (fun _ _ ↦ .pure rfl) (fun _ _ ↦ .pure trivial)
      (.of_total (fun _ _ ↦ rfl) (fun _ _ ↦ .pure trivial) fun _ _ _ _ ↦ .pure trivial)
      SizeLimit.exceededBy_two_ne_error
  rwa [show selection Sample.trinketBox.absent Sample.trinketWeight Sample.trinketSlots
    Sample.trinkets.eraseDups = [1, 2, 4] by cbv] at h

end Run

end Gear

end Loadout
