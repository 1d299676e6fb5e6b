import Loadout.Proofs.Gear.Reduction
import Mathlib.Data.List.Find

/-!
# One set of slots at a time

What the reduction does for one set of slots depends only on the rivals for it, the candidates of
positive weight that occupy exactly these slots: each of them in turn is kept, or not, in the place
of the one before, `winner?_bestPerSlotSet`.  The first of the heaviest rivals is kept as soon as it
is met, `foldl_keep_of_lt`, and from then on, `foldl_keep_of_le`, unless it is absent: then all
before it might as well not have been there, `foldl_keep_of_absent`.
-/

namespace Loadout.Gear

variable {α σ φ : Type} [BEq σ] {candidates best : List (Candidate α σ φ)}
variable {c d : Candidate α σ φ} {slots : List σ} {absent : α → Bool}

/-- The candidates of positive weight that occupy exactly the given slots. -/
def rivals [Zero φ] [LE φ] [DecidableLE φ] (candidates : List (Candidate α σ φ))
    (slots : List σ) : List (Candidate α σ φ) :=
  candidates.filter fun c ↦ !decide (c.weight ≤ 0) && sameSlots slots c.slots

theorem rivals_append [Zero φ] [LE φ] [DecidableLE φ] (before after : List (Candidate α σ φ))
    (slots : List σ) : rivals (before ++ after) slots = rivals before slots ++ rivals after slots :=
  List.filter_append _ _

theorem mem_rivals [EquivBEq σ] [Zero φ] [LinearOrder φ]
    (hdistinct : ∀ c ∈ candidates, Distinct c.slots) (hslots : Distinct slots) :
    d ∈ rivals candidates slots ↔
      d ∈ candidates ∧ 0 < d.weight ∧ occupied d.slots = occupied slots := by
  rw [rivals, List.mem_filter, Bool.and_eq_true, Bool.not_eq_true', decide_eq_false_iff_not, not_le]
  refine and_congr_right fun hd ↦ and_congr_right fun _ ↦ ?_
  rw [sameSlots_iff hslots (hdistinct d hd), eq_comm]

section Keep

variable [LT φ] [DecidableLT φ]

/-- Keep a rival in the place of another one that is lighter or absent. -/
def keep (absent : α → Bool) : Option (Candidate α σ φ) → Candidate α σ φ →
    Option (Candidate α σ φ)
  | none, c => some c
  | some previous, c =>
    if absent previous.item || previous.weight < c.weight then some c else some previous

omit [BEq σ] in
theorem keep_eq (absent : α → Bool) (kept : Option (Candidate α σ φ)) (c : Candidate α σ φ) :
    keep absent kept c = some c ∨ keep absent kept c = kept := by
  cases kept with
  | none => exact .inl rfl
  | some previous =>
    rw [keep]
    split
    · exact .inl rfl
    · exact .inr rfl

omit [BEq σ] in
/-- Only rivals are kept. -/
theorem mem_of_foldl_keep {kept : Option (Candidate α σ φ)} {rest : List (Candidate α σ φ)}
    (h : rest.foldl (keep absent) kept = some c) : c ∈ rest ∨ kept = some c := by
  induction rest generalizing kept with
  | nil => exact .inr h
  | cons d rest ih =>
    rcases ih h with hc | hc
    · exact .inl (List.mem_cons_of_mem _ hc)
    · rcases keep_eq absent kept d with heq | heq
      · rw [heq, Option.some.injEq] at hc
        exact .inl (hc ▸ List.mem_cons_self)
      · exact .inr (heq ▸ hc)

omit [BEq σ] in
/-- Some rival is kept if there are any. -/
theorem isSome_foldl_keep {kept : Option (Candidate α σ φ)} {rest : List (Candidate α σ φ)} :
    (rest.foldl (keep absent) kept).isSome = true ↔ kept.isSome = true ∨ rest ≠ [] := by
  induction rest generalizing kept with
  | nil => simp
  | cons d rest ih =>
    have hkeep : (keep absent kept d).isSome = true := by
      cases kept with
      | none => rfl
      | some previous =>
        rw [keep]
        split <;> rfl
    simp [ih, hkeep]

omit [BEq σ] in
/-- A rival that is heavier than all before it is kept. -/
theorem foldl_keep_of_lt {before : List (Candidate α σ φ)}
    (h : ∀ d ∈ before, d.weight < c.weight) :
    (before ++ [c]).foldl (keep absent) none = some c := by
  rw [List.foldl_append, List.foldl_cons, List.foldl_nil]
  cases hkept : before.foldl (keep absent) none with
  | none => rfl
  | some previous =>
    have hmem : previous ∈ before := (mem_of_foldl_keep hkept).resolve_right (by simp)
    rw [keep, if_pos (by simp [h previous hmem])]

omit [BEq σ] in
/-- A rival to which all after it are no match stays. -/
theorem foldl_keep_of_le {after : List (Candidate α σ φ)} (hc : absent c.item = false)
    (h : ∀ d ∈ after, ¬ c.weight < d.weight) : after.foldl (keep absent) (some c) = some c := by
  induction after with
  | nil => rfl
  | cons d after ih =>
    obtain ⟨hd, hafter⟩ := List.forall_mem_cons.mp h
    rw [List.foldl_cons, keep, if_neg (by simp [hc, hd])]
    exact ih hafter

omit [BEq σ] in
/-- An absent rival is the same as none to those after it. -/
theorem foldl_keep_of_absent {after : List (Candidate α σ φ)} (hc : absent c.item = true)
    (h : after ≠ []) : after.foldl (keep absent) (some c) = after.foldl (keep absent) none := by
  obtain ⟨d, rest, rfl⟩ := List.exists_cons_of_ne_nil h
  have hkeep : keep absent (some c) d = keep absent none d := if_pos (by simp [hc])
  rw [List.foldl_cons, List.foldl_cons, hkeep]

end Keep

section Consider

variable [EquivBEq σ]

/-- Slots that are the same have the same winner. -/
theorem winner?_congr (hbest : ∀ b ∈ best, Distinct b.slots) {others : List σ}
    (hslots : Distinct slots) (hothers : Distinct others) (h : occupied slots = occupied others) :
    winner? best slots = winner? best others := by
  refine List.find?_congr fun b hb ↦ ?_
  rw [Bool.eq_iff_iff, sameSlots_iff hslots (hbest b hb), sameSlots_iff hothers (hbest b hb), h]

omit [EquivBEq σ] in
theorem winner?_append_singleton (best : List (Candidate α σ φ)) (c : Candidate α σ φ)
    (slots : List σ) : winner? (best ++ [c]) slots =
      (winner? best slots).or (if sameSlots slots c.slots then some c else none) := by
  rw [winner?, winner?, List.find?_append]
  by_cases h : sameSlots slots c.slots = true <;> simp [h]

/-- A candidate takes the place of the winner for its slots only. -/
theorem winner?_replaceWinner (hbest : ∀ b ∈ best, Distinct b.slots) (hc : Distinct c.slots)
    (hslots : Distinct slots) :
    winner? (replaceWinner best c) slots =
      (winner? best slots).map fun b ↦ if sameSlots slots c.slots then c else b := by
  have hdistinct : ∀ b ∈ best, Distinct (if sameSlots c.slots b.slots then c else b).slots := by
    intro b hb
    split
    · exact hc
    · exact hbest b hb
  have hfind : best.find? ((fun b ↦ sameSlots slots b.slots) ∘
      fun b ↦ if sameSlots c.slots b.slots then c else b) = winner? best slots := by
    refine List.find?_congr fun b hb ↦ ?_
    rw [Function.comp, Bool.eq_iff_iff, sameSlots_iff hslots (hdistinct b hb),
      occupied_replace hc (hbest b hb), sameSlots_iff hslots (hbest b hb)]
  rw [winner?, replaceWinner, List.find?_map, hfind]
  refine Option.map_congr fun b hb ↦ ?_
  obtain ⟨hmem, hsame⟩ := winner?_eq_some hb
  simp only [sameSlots_iff hc (hbest b hmem), sameSlots_iff hslots hc,
    ← (sameSlots_iff hslots (hbest b hmem)).mp hsame, eq_comm]

variable [Zero φ] [LE φ] [DecidableLE φ] [LT φ] [DecidableLT φ]

/-- One more candidate is considered. -/
theorem winner?_consider (hbest : ∀ b ∈ best, Distinct b.slots) (hc : Distinct c.slots)
    (hslots : Distinct slots) :
    winner? (consider absent best c) slots =
      (rivals [c] slots).foldl (keep absent) (winner? best slots) := by
  by_cases hle : c.weight ≤ 0
  · simp [consider, rivals, hle]
  by_cases hsame : sameSlots slots c.slots = true
  · have hwinner := winner?_congr hbest hslots hc ((sameSlots_iff hslots hc).mp hsame)
    have hrivals : rivals [c] slots = [c] := by simp [rivals, hle, hsame]
    rw [hrivals, List.foldl_cons, List.foldl_nil, consider, if_neg hle, ← hwinner]
    cases hprevious : winner? best slots with
    | none => simp [winner?_append_singleton, hprevious, hsame, keep]
    | some previous =>
      by_cases hgives : (absent previous.item || decide (previous.weight < c.weight)) = true
      · simp only [hgives, keep, if_true]
        rw [winner?_replaceWinner hbest hc hslots, hprevious, Option.map_some, if_pos hsame]
      · simpa [hgives, keep] using hprevious
  · have hrivals : rivals [c] slots = [] := by simp [rivals, hsame]
    rw [hrivals, List.foldl_nil, consider, if_neg hle]
    split
    · simp [winner?_append_singleton, hsame]
    · split
      · rw [winner?_replaceWinner hbest hc hslots]
        simp [hsame]
      · rfl

/-- The winner for some slots is what is kept of the rivals for them. -/
theorem winner?_bestPerSlotSet (absent : α → Bool) (hdistinct : ∀ c ∈ candidates, Distinct c.slots)
    (hslots : Distinct slots) :
    winner? (bestPerSlotSet absent candidates) slots =
      (rivals candidates slots).foldl (keep absent) none := by
  induction candidates using List.reverseRecOn with
  | nil => rfl
  | append_singleton candidates c ih =>
    have hdistinct' : ∀ d ∈ candidates, Distinct d.slots :=
      fun d hd ↦ hdistinct d (List.mem_append_left _ hd)
    have hbest := (winners_bestPerSlotSet absent hdistinct').distinct_slots hdistinct'
    have hc : Distinct c.slots := hdistinct c (List.mem_append_right _ List.mem_cons_self)
    rw [bestPerSlotSet, List.foldl_append, List.foldl_cons, List.foldl_nil, ← bestPerSlotSet,
      winner?_consider hbest hc hslots, ih hdistinct', ← List.foldl_append, ← rivals_append]

end Consider

end Loadout.Gear
