import Loadout.Proofs.Gear.Exactness

/-!
# The shortcuts in the selection of gear

The solver is left out if fewer than two candidates are considered, or if all of them occupy a
single slot.  It would have selected all of them: winners for single slots have no slot in common,
so each is a component of its own, `united_eq_choice`.  Main statement: `find_without_shortcuts`.
-/

namespace Loadout

namespace Sample

/-- A dominated item, two for single slots, one that is no heavier than one of these, one that
weighs less than nothing, and another dominated one. -/
def shelf : List Nat := [2, 0, 1, 7, 2, 5, 6]

end Sample

namespace Gear

variable {τ α σ ω φ : Type} [BEq α] [BEq σ] [Zero φ] [Add φ] [LE φ] [DecidableLE φ] [LT φ]
variable [DecidableLT φ] {w : Wardrobe τ α σ ω φ} {limit : SizeLimit} {items : List α}
variable {candidates : List (Candidate α σ φ)} {fails : Failure → Prop}

omit [BEq α] in
/-- Of candidates for different single slots the solver selects all, whatever they weigh. -/
theorem united_eq_choice [EquivBEq σ] (hnodup : candidates.Nodup)
    (hapart : candidates.Pairwise fun c d ↦ occupied c.slots ≠ occupied d.slots) :
    united clash (·.weight) (fun c d ↦ decide (d.weight ≤ c.weight)) candidates =
      choice candidates := by
  unfold choice
  split
  next hsingle =>
    simp only [List.all_eq_true, beq_iff_eq] at hsingle
    have hindependent := independent_of_single hsingle hapart
    rw [united, componentsOf_of_unrelated hnodup hindependent.apart, List.map_map,
      ← List.flatMap_def]
    exact List.flatMap_singleton' candidates
  · rfl

variable [EquivBEq α] [EquivBEq σ] {weight : α → φ} {slotsOf : α → List σ}

/-- Leaving the solver out changes nothing: what is selected from items is what the solver selects
from the considered candidates, whatever weights mean.  Where an item cannot be printed or a table
cannot be laid out, a run may fail as that does. -/
theorem find_without_shortcuts
    (hweights : ∀ a ∈ items.eraseDups, Call.Ends (w.weighing.number a) (· = weight a) fails)
    (hslots : ∀ a ∈ items.eraseDups, Call.Ends (w.slots a) (· = slotsOf a) fails)
    (hlabels : ∀ a ∈ items.eraseDups, Call.Ends (w.labels.vertex a) (fun _ ↦ True) fails)
    (htable : Tabled w (finalists w.absent weight slotsOf items.eraseDups) fails)
    (hlimit : ∀ n e, limit.exceededBy n = .error e → fails e) :
    ∃ T, Call.Ends (find w limit items) (· = T.map (·.item)) fails ∧
      Call.Ends
        (solve w limit (considered w.absent
          (bestPerSlotSet w.absent (items.eraseDups.map (candidateOf weight slotsOf)))))
        (· = T) fails := by
  have hbest := winners_finalists w.absent weight slotsOf items.eraseDups
  have hdistinct := hbest.distinct (distinct_eraseDups items)
  have hnames : ∀ c ∈ finalists w.absent weight slotsOf items.eraseDups,
      Call.Ends (w.labels.vertex c.item) (fun _ ↦ True) fails :=
    fun c hc ↦ hlabels c.item (mem_candidates (hbest.subset hc)).1
  refine ⟨_, find_ends_selection hweights hslots hlabels htable hlimit, ?_⟩
  refine (solve_ends_united hdistinct hnames hlimit).mono ?_
  rintro T rfl
  exact united_eq_choice hdistinct.nodup hbest.apart

/-- Here two candidates are considered, and each occupies a single slot. -/
theorem find_without_shortcuts_sample :
    (considered Sample.wardrobe.absent (bestPerSlotSet Sample.wardrobe.absent
      (Sample.shelf.eraseDups.map (candidateOf Sample.itemWeight Sample.slotsOf)))).map
        (·.slots) = [[0], [1]] ∧
    ∃ T, Call.Ends (find Sample.wardrobe (.ofInt 2) Sample.shelf) (· = T.map (·.item))
        (fun _ ↦ False) ∧
      Call.Ends
        (solve Sample.wardrobe (.ofInt 2) (considered Sample.wardrobe.absent
          (bestPerSlotSet Sample.wardrobe.absent
            (Sample.shelf.eraseDups.map (candidateOf Sample.itemWeight Sample.slotsOf)))))
        (· = T) fun _ ↦ False :=
  ⟨by decide +kernel, find_without_shortcuts (fun _ _ ↦ .pure rfl) (fun _ _ ↦ .pure rfl)
    (fun _ _ ↦ .pure trivial)
    (.of_total (fun _ _ ↦ rfl) (fun _ _ ↦ .pure trivial) fun _ _ _ _ ↦ .pure trivial)
    SizeLimit.exceededBy_two_ne_error⟩

end Gear

end Loadout
