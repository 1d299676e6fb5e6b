import Loadout.Proofs.Gear.Rivals

/-!
# Which candidates win, and in which order

Of the candidates for the same slots one leads, `exists_leads`, and only one, `Leads.eq`: it is
heavier than every earlier one and no lighter than any later one.  It is kept as soon as it is met,
`winner?_of_leads`, so the winners are the leading candidates of positive weight if none is absent,
`mem_bestPerSlotSet_iff`.  They stand in the order in which their sets of slots occurred first,
`map_occupied_bestPerSlotSet`, and so the first candidate of a set decides where its winner stands.
-/

namespace Loadout.Gear

variable {α σ φ : Type} [BEq σ] {candidates best : List (Candidate α σ φ)}
variable {c d : Candidate α σ φ}

/-! ## Leading candidates -/

section Leads

/-- A candidate is heavier than all earlier ones for the same slots, and no lighter than any later
one. -/
def Leads [LE φ] [LT φ] (candidates : List (Candidate α σ φ)) (c : Candidate α σ φ) : Prop :=
  ∃ before after, candidates = before ++ c :: after ∧
    (∀ d ∈ before, occupied d.slots = occupied c.slots → d.weight < c.weight) ∧
    ∀ d ∈ after, occupied d.slots = occupied c.slots → d.weight ≤ c.weight

theorem Leads.mem [LE φ] [LT φ] (h : Leads candidates c) : c ∈ candidates := by
  obtain ⟨before, after, rfl, -, -⟩ := h
  exact List.mem_append_right _ List.mem_cons_self

theorem leads_append_singleton_self [LE φ] [LT φ]
    (h : ∀ d ∈ candidates, occupied d.slots = occupied c.slots → d.weight < c.weight) :
    Leads (candidates ++ [c]) c :=
  ⟨candidates, [], rfl, h, by simp⟩

variable [LinearOrder φ]

theorem Leads.le (h : Leads candidates c) (hd : d ∈ candidates)
    (heq : occupied d.slots = occupied c.slots) : d.weight ≤ c.weight := by
  obtain ⟨before, after, rfl, hbefore, hafter⟩ := h
  rcases List.mem_append.mp hd with hd | hd
  · exact le_of_lt (hbefore d hd heq)
  · rcases List.mem_cons.mp hd with rfl | hd
    · exact le_rfl
    · exact hafter d hd heq

/-- One candidate more is led as well if it is no heavier. -/
theorem Leads.append_singleton (h : Leads candidates c)
    (hd : occupied d.slots = occupied c.slots → d.weight ≤ c.weight) :
    Leads (candidates ++ [d]) c := by
  obtain ⟨before, after, rfl, hbefore, hafter⟩ := h
  refine ⟨before, after ++ [d], by simp, hbefore, fun e he heq ↦ ?_⟩
  rcases List.mem_append.mp he with he | he
  · exact hafter e he heq
  · rw [List.mem_singleton.mp he] at heq ⊢
    exact hd heq

/-- Of the candidates for the same slots, one leads. -/
theorem exists_leads (hd : d ∈ candidates) :
    ∃ c, Leads candidates c ∧ occupied c.slots = occupied d.slots := by
  induction candidates using List.reverseRecOn generalizing d with
  | nil => exact absurd hd List.not_mem_nil
  | append_singleton candidates e ih =>
    by_cases hsame : occupied d.slots = occupied e.slots
    · rw [hsame]
      by_cases htaken : ∃ b ∈ candidates, occupied b.slots = occupied e.slots
      · obtain ⟨b, hb, hbe⟩ := htaken
        obtain ⟨c, hleads, hcb⟩ := ih hb
        have hce := hcb.trans hbe
        by_cases hlt : c.weight < e.weight
        · refine ⟨e, leads_append_singleton_self fun x hx heq ↦ ?_, rfl⟩
          exact (hleads.le hx (heq.trans hce.symm)).trans_lt hlt
        · exact ⟨c, hleads.append_singleton fun _ ↦ not_lt.mp hlt, hce⟩
      · exact ⟨e, leads_append_singleton_self fun x hx heq ↦ absurd ⟨x, hx, heq⟩ htaken, rfl⟩
    · have hmem : d ∈ candidates := by
        refine (List.mem_append.mp hd).resolve_right fun hde ↦ hsame ?_
        rw [List.mem_singleton.mp hde]
      obtain ⟨c, hleads, hcd⟩ := ih hmem
      exact ⟨c, hleads.append_singleton fun hec ↦ absurd (hcd.symm.trans hec.symm) hsame, hcd⟩

/-- There is one leading candidate for a set of slots at most. -/
theorem Leads.eq (hc : Leads candidates c) (hd : Leads candidates d)
    (heq : occupied c.slots = occupied d.slots) : c = d := by
  obtain ⟨before, after, hsplit, hbefore, hafter⟩ := hc
  obtain ⟨before', after', hsplit', hbefore', hafter'⟩ := hd
  rw [hsplit] at hsplit'
  rcases List.append_eq_append_iff.mp hsplit' with ⟨between, hb, ha⟩ | ⟨between, hb, ha⟩
  · cases between with
    | nil => exact (List.cons.inj ha).1
    | cons e between =>
      obtain ⟨rfl, rfl⟩ := List.cons.inj ha
      have hlt : c.weight < d.weight := hbefore' c (by simp [hb]) heq
      exact absurd (hafter d (by simp) heq.symm) (not_le.mpr hlt)
  · cases between with
    | nil => exact (List.cons.inj ha).1.symm
    | cons e between =>
      obtain ⟨rfl, rfl⟩ := List.cons.inj ha
      have hlt : d.weight < c.weight := hbefore d (by simp [hb]) heq.symm
      exact absurd (hafter' c (by simp) heq) (not_le.mpr hlt)

end Leads

/-! ## Winners lead -/

section Winners

variable [EquivBEq σ] [Zero φ] [LinearOrder φ] {absent : α → Bool}

/-- A leading candidate is kept as soon as it is met: the winner is what the later ones leave. -/
theorem winner?_of_leads (absent : α → Bool) {before after : List (Candidate α σ φ)}
    (hdistinct : ∀ d ∈ before ++ c :: after, Distinct d.slots) (hpos : 0 < c.weight)
    (hbefore : ∀ d ∈ before, occupied d.slots = occupied c.slots → d.weight < c.weight) :
    winner? (bestPerSlotSet absent (before ++ c :: after)) c.slots =
      (rivals after c.slots).foldl (keep absent) (some c) := by
  have hc : Distinct c.slots := hdistinct c (by simp)
  have hself : rivals [c] c.slots = [c] := by
    simp [rivals, hpos, (sameSlots_iff hc hc).mpr rfl]
  rw [winner?_bestPerSlotSet absent hdistinct hc, ← List.singleton_append, ← List.append_assoc,
    rivals_append, rivals_append, hself, List.foldl_append, foldl_keep_of_lt]
  intro d hd
  obtain ⟨hd, -, heq⟩ := (mem_rivals (fun e he ↦ hdistinct e (by simp [he])) hc).mp hd
  exact hbefore d hd heq

theorem winner?_of_leads_of_present (hdistinct : ∀ d ∈ candidates, Distinct d.slots)
    (hpos : 0 < c.weight) (hleads : Leads candidates c) (hc : absent c.item = false) :
    winner? (bestPerSlotSet absent candidates) c.slots = some c := by
  obtain ⟨before, after, rfl, hbefore, hafter⟩ := hleads
  rw [winner?_of_leads absent hdistinct hpos hbefore]
  refine foldl_keep_of_le hc fun d hd ↦ ?_
  obtain ⟨hd, -, heq⟩ := (mem_rivals (fun e he ↦ hdistinct e (by simp [he]))
    (hdistinct c (by simp))).mp hd
  exact not_lt.mpr (hafter d hd heq)

/-- Every candidate that weighs something has a winner for its slots that is at least as heavy. -/
theorem covers_bestPerSlotSet (hslots : ∀ c ∈ candidates, Distinct c.slots)
    (hpresent : ∀ c ∈ candidates, absent c.item = false) :
    Covers candidates (bestPerSlotSet absent candidates) := by
  intro d hd hpos
  obtain ⟨c, hleads, heq⟩ := exists_leads hd
  have hle := hleads.le hd heq.symm
  have hwinner := winner?_of_leads_of_present hslots (hpos.trans_le hle) hleads
    (hpresent c hleads.mem)
  exact ⟨c, (winner?_eq_some hwinner).1, heq, hle⟩

/-- The winners are the leading candidates of positive weight. -/
theorem mem_bestPerSlotSet_iff (hslots : ∀ c ∈ candidates, Distinct c.slots)
    (hpresent : ∀ c ∈ candidates, absent c.item = false) :
    c ∈ bestPerSlotSet absent candidates ↔ 0 < c.weight ∧ Leads candidates c := by
  have hbest := winners_bestPerSlotSet absent hslots
  constructor
  · intro hc
    have hpos := not_le.mp (hbest.positive c hc)
    obtain ⟨b, hleads, heq⟩ := exists_leads (hbest.subset hc)
    have hle := hleads.le (hbest.subset hc) heq.symm
    have hwinner := winner?_of_leads_of_present hslots (hpos.trans_le hle) hleads
      (hpresent b hleads.mem)
    rw [hbest.eq_of_occupied_eq hc (winner?_eq_some hwinner).1 heq.symm]
    exact ⟨hpos.trans_le hle, hleads⟩
  · rintro ⟨hpos, hleads⟩
    exact (winner?_eq_some
      (winner?_of_leads_of_present hslots hpos hleads (hpresent c hleads.mem))).1

end Winners

/-! ## The order of the winners -/

section Order

variable [Zero φ] [LE φ] [DecidableLE φ]

open Classical in
/-- The sets of slots of the candidates that weigh something, in the order in which they occur
first. -/
noncomputable def slotOrder (candidates : List (Candidate α σ φ)) : List (Set σ) :=
  ((candidates.filter fun c ↦ ¬ c.weight ≤ 0).map fun c ↦ occupied c.slots).eraseDups

theorem slotOrder_append_of_nonpos (h : d.weight ≤ 0) :
    slotOrder (candidates ++ [d]) = slotOrder candidates := by
  simp [slotOrder, h]

open Classical in
theorem slotOrder_append_of_pos (hpos : ¬ d.weight ≤ 0) :
    slotOrder (candidates ++ [d]) = if occupied d.slots ∈ slotOrder candidates
      then slotOrder candidates else slotOrder candidates ++ [occupied d.slots] := by
  simp only [slotOrder, List.mem_eraseDups]
  rw [List.filter_append, List.filter_cons_of_pos (by simpa using hpos), List.filter_nil,
    List.map_append, List.map_singleton, eraseDups_append_singleton]

variable [EquivBEq σ] [LT φ] [DecidableLT φ]

/-- The winners stand in the order in which their sets of slots occurred first. -/
theorem map_occupied_bestPerSlotSet (absent : α → Bool)
    (hslots : ∀ c ∈ candidates, Distinct c.slots) :
    (bestPerSlotSet absent candidates).map (fun c ↦ occupied c.slots) = slotOrder candidates := by
  induction candidates using List.reverseRecOn with
  | nil => rfl
  | append_singleton candidates d ih =>
    have hslots' : ∀ c ∈ candidates, Distinct c.slots :=
      fun c hc ↦ hslots c (List.mem_append_left _ hc)
    have hd : Distinct d.slots := hslots d (List.mem_append_right _ List.mem_cons_self)
    have hbest := (winners_bestPerSlotSet absent hslots').distinct_slots hslots'
    have ih := ih hslots'
    rw [bestPerSlotSet, List.foldl_append, ← bestPerSlotSet, List.foldl_cons, List.foldl_nil,
      consider]
    split
    next hle => rw [ih, slotOrder_append_of_nonpos hle]
    next hpos =>
      split
      next hnone =>
        have hfree : occupied d.slots ∉ slotOrder candidates := by
          rw [← ih]
          intro hmem
          obtain ⟨b, hb, heq⟩ := List.mem_map.mp hmem
          exact winner?_eq_none hnone hb ((sameSlots_iff hd (hbest b hb)).mpr heq.symm)
        rw [List.map_append, ih, slotOrder_append_of_pos hpos, if_neg hfree]
        rfl
      next previous hsome =>
        obtain ⟨hprevious, hsame⟩ := winner?_eq_some hsome
        have htaken : occupied d.slots ∈ slotOrder candidates := by
          rw [← ih, (sameSlots_iff hd (hbest previous hprevious)).mp hsame]
          exact List.mem_map_of_mem hprevious
        rw [slotOrder_append_of_pos hpos, if_pos htaken, ← ih]
        split
        · rw [replaceWinner, List.map_map]
          exact List.map_congr_left fun b hb ↦ occupied_replace hd (hbest b hb)
        · rfl

end Order

end Loadout.Gear
