import Loadout.Proofs.Gear.Exactness

/-!
# How the reduction groups the candidates

The winners are a table from sets of slots to candidates, and `Grouped` says what it holds: an entry
for the slots of every candidate that weighs something and for no others, which is the first of the
heaviest candidates for these slots unless that one gives way.  It does so if it is absent and
another candidate that weighs something comes later for the same slots: then the entry is what the
later candidates alone would have left.  Of the entries for single slots, an absent one is not
counted when separate items are weighed against one that occupies several slots.
-/

namespace Loadout

namespace Sample

/-- The first of these items is heavier than the second, which is for the same slot. -/
def places : List (Option Nat) := [none, some 0, some 1, some 2]

def placeWeight : Option Nat → Int
  | none => 2
  | some a => [1, 2, -1].getD a 0

/-- The third item has the slot of the first and another one. -/
def placeSlots : Option Nat → List Nat
  | none => [0]
  | some a => [[0], [0, 1], [1]].getD a []

/-- An item as a candidate. -/
def placed : Option Nat → Gear.Candidate (Option Nat) Nat Int :=
  Gear.candidateOf placeWeight placeSlots

end Sample

namespace Gear

variable {α σ φ : Type} [BEq σ] {candidates best : List (Candidate α σ φ)}
variable {c d : Candidate α σ φ} {slots : List σ} {absent : α → Bool}

/-! ## What a candidate gives way to -/

/-- An absent candidate gives way to others for the same slots if one of them weighs something. -/
def GivesWay [Zero φ] [LT φ] (absent : α → Bool) (c : Candidate α σ φ)
    (others : List (Candidate α σ φ)) : Prop :=
  absent c.item = true ∧ ∃ d ∈ others, 0 < d.weight ∧ occupied d.slots = occupied c.slots

section GivesWay

variable [EquivBEq σ] [Zero φ] [LinearOrder φ] {before after : List (Candidate α σ φ)}

theorem winner?_of_givesWay (hdistinct : ∀ d ∈ before ++ c :: after, Distinct d.slots)
    (hpos : 0 < c.weight)
    (hbefore : ∀ d ∈ before, occupied d.slots = occupied c.slots → d.weight < c.weight)
    (h : GivesWay absent c after) :
    winner? (bestPerSlotSet absent (before ++ c :: after)) c.slots =
      winner? (bestPerSlotSet absent after) c.slots := by
  obtain ⟨habsent, d, hd, hd'⟩ := h
  have hc : Distinct c.slots := hdistinct c (by simp)
  have hafter : ∀ e ∈ after, Distinct e.slots := fun e he ↦ hdistinct e (by simp [he])
  have hrivals : d ∈ rivals after c.slots := (mem_rivals hafter hc).mpr ⟨hd, hd'⟩
  rw [winner?_of_leads absent hdistinct hpos hbefore, winner?_bestPerSlotSet absent hafter hc,
    foldl_keep_of_absent habsent (List.ne_nil_of_mem hrivals)]

theorem winner?_of_not_givesWay (hdistinct : ∀ d ∈ before ++ c :: after, Distinct d.slots)
    (hpos : 0 < c.weight)
    (hbefore : ∀ d ∈ before, occupied d.slots = occupied c.slots → d.weight < c.weight)
    (hafter : ∀ d ∈ after, occupied d.slots = occupied c.slots → d.weight ≤ c.weight)
    (h : ¬ GivesWay absent c after) :
    winner? (bestPerSlotSet absent (before ++ c :: after)) c.slots = some c := by
  cases hc : absent c.item with
  | false =>
    exact winner?_of_leads_of_present hdistinct hpos ⟨before, after, rfl, hbefore, hafter⟩ hc
  | true =>
    have hnone : rivals after c.slots = [] := by
      refine List.eq_nil_iff_forall_not_mem.mpr fun d hd ↦ h ⟨hc, d, ?_⟩
      exact (mem_rivals (fun e he ↦ hdistinct e (by simp [he])) (hdistinct c (by simp))).mp hd
    rw [winner?_of_leads absent hdistinct hpos hbefore, hnone, List.foldl_nil]

end GivesWay

/-! ## The table -/

section Grouped

variable [AddCommGroup φ] [LinearOrder φ]

/-- What the reduction holds of the candidates, and how it weighs separate items. -/
structure Grouped (absent : α → Bool) (candidates best : List (Candidate α σ φ)) : Prop
    extends Winners candidates best where
  keys : ∀ slots, Distinct slots → ((winner? best slots).isSome = true ↔
    ∃ d ∈ candidates, 0 < d.weight ∧ occupied d.slots = occupied slots)
  leader : ∀ d ∈ candidates, 0 < d.weight → ∃ before c after, candidates = before ++ c :: after ∧
    occupied c.slots = occupied d.slots ∧
    (∀ e ∈ before, occupied e.slots = occupied c.slots → e.weight < c.weight) ∧
    (∀ e ∈ after, occupied e.slots = occupied c.slots → e.weight ≤ c.weight) ∧
    (winner? best c.slots = some c ↔ ¬ GivesWay absent c after) ∧
    (GivesWay absent c after →
      winner? best c.slots = winner? (bestPerSlotSet absent after) c.slots)
  dominated : ∀ c, isDominated absent best c = true ↔ 2 ≤ c.slots.length ∧
    c.weight ≤ total (·.weight) ((singles best c.slots).filter fun single ↦ !absent single.item)
  counted : ∀ slots, separateWeight absent best slots = total (·.weight) (singles best slots) ↔
    ∀ single ∈ singles best slots, absent single.item = false

variable [EquivBEq σ]

/-- The entries of the table are for the slots of the candidates that weigh something. -/
theorem isSome_winner?_iff (absent : α → Bool) (hdistinct : ∀ c ∈ candidates, Distinct c.slots)
    (hslots : Distinct slots) :
    (winner? (bestPerSlotSet absent candidates) slots).isSome = true ↔
      ∃ d ∈ candidates, 0 < d.weight ∧ occupied d.slots = occupied slots := by
  rw [winner?_bestPerSlotSet absent hdistinct hslots, isSome_foldl_keep,
    ← List.length_pos_iff, List.length_pos_iff_exists_mem]
  simp only [mem_rivals hdistinct hslots, Option.isSome_none, Bool.false_eq_true, false_or]

variable [IsOrderedAddMonoid φ]

theorem grouped_bestPerSlotSet (absent : α → Bool) (hnodup : candidates.Nodup)
    (hdistinct : ∀ c ∈ candidates, Distinct c.slots) :
    Grouped absent candidates (bestPerSlotSet absent candidates) where
  toWinners := winners_bestPerSlotSet absent hdistinct
  keys slots hslots := isSome_winner?_iff absent hdistinct hslots
  leader d hd hpos := by
    obtain ⟨c, hleads, heq⟩ := exists_leads hd
    have hpos' := hpos.trans_le (hleads.le hd heq.symm)
    obtain ⟨before, after, rfl, hbefore, hafter⟩ := hleads
    have hrest : GivesWay absent c after → _ := winner?_of_givesWay hdistinct hpos' hbefore
    refine ⟨before, c, after, rfl, heq, hbefore, hafter, ⟨fun hwinner hgives ↦ ?_,
      winner?_of_not_givesWay hdistinct hpos' hbefore hafter⟩, hrest⟩
    -- What is left of the later candidates is one of them.
    rw [hrest hgives] at hwinner
    have hmem := (winners_bestPerSlotSet absent fun e he ↦ hdistinct e (by simp [he])).subset
      (winner?_eq_some hwinner).1
    exact (List.nodup_cons.mp (List.nodup_append.mp hnodup).2.1).1 hmem
  dominated c := by
    rw [isDominated, separateWeight_eq_present, Bool.and_eq_true, decide_eq_true_eq,
      decide_eq_true_eq]
  counted slots := by
    have hbest := winners_bestPerSlotSet absent hdistinct
    rw [separateWeight_eq_present, total_filter_eq_iff]
    · simp only [Bool.not_eq_true']
    · exact fun single h ↦ not_le.mp (hbest.positive single (mem_of_mem_singles h))

/-- The table holds the first of the heaviest candidates for every set of slots that one of positive
weight occupies, and its weight is counted, unless an absent one gives way or is not counted. -/
theorem bestPerSlotSet_grouped {items : List α} (hitems : items.Nodup) (absent : α → Bool)
    (weight : α → φ) (slotsOf : α → List σ) :
    Grouped absent (items.map (candidateOf weight slotsOf))
      (bestPerSlotSet absent (items.map (candidateOf weight slotsOf))) :=
  grouped_bestPerSlotSet absent (hitems.map fun _ _ heq ↦ congrArg Candidate.item heq)
    (distinct_slots_candidates weight slotsOf items)

theorem bestPerSlotSet_grouped_sample :
    Sample.places.Nodup ∧
      Grouped Option.isNone (Sample.places.map (candidateOf Sample.placeWeight Sample.placeSlots))
        (bestPerSlotSet Option.isNone
          (Sample.places.map (candidateOf Sample.placeWeight Sample.placeSlots))) :=
  ⟨by decide, bestPerSlotSet_grouped (by decide) _ _ _⟩

/-- The heaviest candidate for a slot is absent and gives way to a lighter one, and where it stays it
is not counted. -/
theorem bestPerSlotSet_absent :
    (Leads (Sample.places.map Sample.placed) (Sample.placed none) ∧
      0 < (Sample.placed none).weight ∧
      winner? (bestPerSlotSet Option.isNone (Sample.places.map Sample.placed)) [0] =
        some (Sample.placed (some 0))) ∧
      winner? (bestPerSlotSet Option.isNone ([none, some 1].map Sample.placed)) [0] =
        some (Sample.placed none) ∧
      (Sample.placed (some 1)).slots = [0, 1] ∧
      (Sample.placed (some 1)).weight ≤ (Sample.placed none).weight ∧
      isDominated Option.isNone (bestPerSlotSet Option.isNone ([none, some 1].map Sample.placed))
        (Sample.placed (some 1)) = false := by
  refine ⟨⟨⟨[], [some 0, some 1, some 2].map Sample.placed, rfl, by simp, fun d hd _ ↦ ?_⟩,
    by decide, rfl⟩, rfl, rfl, by decide, by decide⟩
  have hle : ∀ d ∈ [some 0, some 1, some 2].map Sample.placed, d.weight ≤ 2 := by decide
  exact hle d hd

end Grouped

end Gear

end Loadout
