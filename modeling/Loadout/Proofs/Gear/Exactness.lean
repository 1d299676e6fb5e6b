import Loadout.Proofs.Gear.Precedence
import Loadout.Proofs.Gear.Selection
import Loadout.Proofs.Selection.Exactness

/-!
# Exactness of the selection of gear

With exact weights nothing heavier can be worn together than the gear that is selected,
`find_heaviest`: neither the reductions of the candidates nor the two shortcuts before the
selection by components lose anything, `total_le_total_selection`.  That the selection can be worn
together, and that all solvers answer independent sets, does not depend on what weights mean,
`selections_independent`.

The runs fail only in a way that the caller brings about, or that the layout of a table fails in.
-/

namespace Loadout

/-! ## Sample wardrobes -/

namespace Sample

/-- Items that overlap in many ways, one of them named twice. -/
def items : List Nat := [0, 1, 2, 3, 2, 4, 5, 6, 7]

/-- The slots of the items, some of them named twice. -/
def slotsOf (a : Nat) : List Nat :=
  [[0], [1, 1], [0, 1], [1, 2], [2, 3, 2], [3], [3, 0], [1]].getD a [0]

/-- Weights with ties, and some that are not worth having. -/
def itemWeight (a : Nat) : Int :=
  [3, 2, 5, 4, 4, -1, 3, 2].getD a 0

def wardrobe : Gear.Wardrobe Unit Nat Nat Int Int where
  weighing := .known itemWeight
  slots a := pure (slotsOf a)
  labels := { vertex := fun a ↦ pure (toString a), weight := fun n ↦ toString n }
  slotLabel s := pure (toString s)
  tabulate _ _ := .ok ()
  absent _ := false

/-- Undefined, infinite and ordinary weights. -/
def floatWeight (a : Nat) : Float :=
  if a = 0 then 0 / 0 else if a = 1 then 1 / 0 else if a = 2 then -1 / 0 else a.toFloat / 10

/-- A wardrobe in which some items occupy no slot, and one stands for an empty place. -/
def floatWardrobe : Gear.Wardrobe Unit Nat Nat Float Float where
  weighing := .known floatWeight
  slots a := pure ((slotsOf a).filter (0 < ·))
  labels := { vertex := fun a ↦ pure (toString a), weight := fun x ↦ toString x }
  slotLabel s := pure (toString s)
  tabulate _ _ := .ok ()
  absent a := a == 1

end Sample

namespace Gear

variable {τ α σ ω φ : Type} [BEq α] [EquivBEq α] [BEq σ] [EquivBEq σ]

section Heaviest

variable [AddCommGroup φ] [LinearOrder φ] [IsOrderedAddMonoid φ] {w : Wardrobe τ α σ ω φ}
variable {limit : SizeLimit} {items : List α} {weight : α → φ} {slotsOf : α → List σ}
variable {fails : Failure → Prop}

omit [BEq α] [EquivBEq α] in
/-- No items with slots that can be worn together are heavier than all considered candidates with
slots that can be. -/
theorem exists_considered_with_slots (weight : α → φ) {absent : α → Bool}
    (hpresent : ∀ a ∈ items, absent a = false) {T : List α}
    (hT : Independent (fun a b ↦ shareSlot (slotsOf a) (slotsOf b)) items T)
    (hnonempty : ∀ a ∈ T, slotsOf a ≠ []) :
    ∃ U, Independent clash (finalists absent weight slotsOf items) U ∧
      (∀ c ∈ U, (occupied c.slots).Nonempty) ∧ total weight T ≤ total (·.weight) U := by
  have hdistinct := distinct_slots_candidates weight slotsOf items
  have hpresent' : ∀ c ∈ items.map (candidateOf weight slotsOf), absent c.item = false :=
    fun c hc ↦ hpresent _ (mem_candidates hc).1
  have hoccupied : ∀ c ∈ T.map (candidateOf weight slotsOf), (occupied c.slots).Nonempty := by
    intro c hc
    obtain ⟨hmem, hcandidate⟩ := mem_candidates hc
    obtain ⟨s, hs⟩ := List.exists_mem_of_ne_nil _ (hnonempty c.item hmem)
    rw [hcandidate, candidateOf, occupied_eraseDups]
    exact ⟨s, mem_occupied hs⟩
  have htotal : total (·.weight) (T.map (candidateOf weight slotsOf)) = total weight T := by
    rw [total, List.map_map]
    rfl
  rw [← htotal]
  exact exists_considered (winners_bestPerSlotSet absent hdistinct)
    (covers_bestPerSlotSet hdistinct hpresent') hdistinct hpresent' (independent_candidates hT)
    hoccupied

omit [BEq α] [EquivBEq α] in
/-- No items that can be worn together are heavier than all considered candidates that can be. -/
theorem exists_considered_of_items (weight : α → φ) {absent : α → Bool}
    (hnonempty : ∀ a ∈ items, slotsOf a ≠ [])
    (hpresent : ∀ a ∈ items, absent a = false) {T : List α}
    (hT : Independent (fun a b ↦ shareSlot (slotsOf a) (slotsOf b)) items T) :
    ∃ U, Independent clash (finalists absent weight slotsOf items) U ∧
      total weight T ≤ total (·.weight) U := by
  obtain ⟨U, hU, -, hle⟩ := exists_considered_with_slots weight hpresent hT fun a ha ↦
    hnonempty a (hT.subset ha)
  exact ⟨U, hU, hle⟩

/-- What is chosen from winners is heaviest among them. -/
theorem Winners.total_le_total_choice {best : List (Candidate α σ φ)}
    (h : Winners (items.map (candidateOf weight slotsOf)) best) (hdistinct : Distinct items)
    {U : List (Candidate α σ φ)} (hU : Independent clash best U) :
    total (·.weight) U ≤ total (·.weight) (choice best) :=
  Gear.total_le_total_choice (h.distinct hdistinct).nodup
    (fun c hc ↦ le_of_lt (not_le.mp (h.positive c hc))) hU

/-- No items that can be worn together are heavier than the selection. -/
theorem total_le_total_selection (hdistinct : Distinct items) {absent : α → Bool}
    (hnonempty : ∀ a ∈ items, slotsOf a ≠ []) (hpresent : ∀ a ∈ items, absent a = false)
    {T : List α} (hT : Independent (fun a b ↦ shareSlot (slotsOf a) (slotsOf b)) items T) :
    total weight T ≤ total weight (selection absent weight slotsOf items) := by
  obtain ⟨U, hU, hle⟩ := exists_considered_of_items weight hnonempty hpresent hT
  have hbest := winners_finalists absent weight slotsOf items
  have hchoice := hbest.independent_choice hdistinct
  calc total weight T ≤ total (·.weight) U := hle
    _ ≤ total (·.weight) (choice (finalists absent weight slotsOf items)) :=
        hbest.total_le_total_choice hdistinct hU
    _ = total weight (selection absent weight slotsOf items) :=
        (total_items fun c hc ↦ hbest.subset (hchoice.subset hc)).symm

/-- If every item occupies a slot and none stands for an empty place, the selection can be worn
together, every item of it has a positive weight, and nothing heavier can be worn together.  Where an
item cannot be printed or a table cannot be laid out, a run may fail as that does. -/
theorem find_heaviest
    (hweights : ∀ a ∈ items.eraseDups, Call.Ends (w.weighing.number a) (· = weight a) fails)
    (hslots : ∀ a ∈ items.eraseDups, Call.Ends (w.slots a) (· = slotsOf a) fails)
    (hnonempty : ∀ a ∈ items.eraseDups, slotsOf a ≠ [])
    (hpresent : ∀ a ∈ items.eraseDups, w.absent a = false)
    (hlabels : ∀ a ∈ items.eraseDups, Call.Ends (w.labels.vertex a) (fun _ ↦ True) fails)
    (htable : Tabled w (finalists w.absent weight slotsOf items.eraseDups) fails)
    (hlimit : ∀ n e, limit.exceededBy n = .error e → fails e) :
    Call.Ends (find w limit items)
      (fun S ↦ Independent (fun a b ↦ shareSlot (slotsOf a) (slotsOf b)) items.eraseDups S ∧
        (∀ a ∈ S, 0 < weight a) ∧
        ∀ T, Independent (fun a b ↦ shareSlot (slotsOf a) (slotsOf b)) items.eraseDups T →
          total weight T ≤ total weight S) fails := by
  refine (find_ends_selection hweights hslots hlabels htable hlimit).mono fun S hS ↦ ?_
  subst hS
  have hdistinct := distinct_eraseDups items
  obtain ⟨hindependent, hpositive⟩ := independent_selection hdistinct w.absent weight slotsOf
  exact ⟨hindependent, fun a ha ↦ not_le.mp (hpositive a ha),
    fun T hT ↦ total_le_total_selection hdistinct hnonempty hpresent hT⟩

theorem find_heaviest_sample :
    (∀ a ∈ Sample.items.eraseDups, Sample.slotsOf a ≠ []) ∧
      Call.Ends (find Sample.wardrobe (.ofInt 2) Sample.items)
        (fun S ↦ Independent (fun a b ↦ shareSlot (Sample.slotsOf a) (Sample.slotsOf b))
            Sample.items.eraseDups S ∧
          (∀ a ∈ S, 0 < Sample.itemWeight a) ∧
          ∀ T, Independent (fun a b ↦ shareSlot (Sample.slotsOf a) (Sample.slotsOf b))
            Sample.items.eraseDups T →
              total Sample.itemWeight T ≤ total Sample.itemWeight S) fun _ ↦ False :=
  ⟨by decide, find_heaviest (fun _ _ ↦ .pure rfl) (fun _ _ ↦ .pure rfl) (by decide)
    (fun _ _ ↦ rfl) (fun _ _ ↦ .pure trivial)
    (.of_total (fun _ _ ↦ rfl) (fun _ _ ↦ .pure trivial) fun _ _ _ _ ↦ .pure trivial)
    SizeLimit.exceededBy_two_ne_error⟩

end Heaviest

section Feasible

variable [Zero φ] [Add φ] [LE φ] [DecidableLE φ] [LT φ] [DecidableLT φ]

/-- Whatever sums and comparisons of weights mean, the solvers for vertices answer independent sets,
and the selected gear can be worn together and has no weight of zero or less.  Where something cannot
be printed or a table cannot be laid out, a run may fail as that does. -/
theorem selections_independent (fails : Failure → Prop) :
    (∀ (labels : Labels τ α φ) (limit : SizeLimit) (vertices : List α)
        (conflict : α → α → Call τ Bool) (weighing : Weighing τ α ω φ) (p : α → α → Bool),
      (∀ a ∈ vertices.eraseDups, ∀ b ∈ vertices.eraseDups,
        Call.Ends (conflict a b) (· = p a b) fails) →
      (∀ a ∈ vertices.eraseDups, ∀ b ∈ vertices.eraseDups, a ≠ b → p a b = p b a) →
      (∀ a ∈ vertices.eraseDups, Call.Ends (weighing.number a) (fun _ ↦ True) fails) →
      (∀ a ∈ vertices.eraseDups, ∀ b ∈ vertices.eraseDups,
        Call.Ends (weighing.compare a b) (fun _ ↦ True) fails) →
      (∀ a ∈ vertices.eraseDups, Call.Ends (labels.vertex a) (fun _ ↦ True) fails) →
      (∀ n e, limit.exceededBy n = .error e → fails e) →
      Call.Ends (ByComponent.find labels limit vertices conflict weighing)
          (Independent p vertices.eraseDups) fails ∧
        Call.Ends (Exhaustive.find labels vertices conflict weighing)
          (Independent p vertices.eraseDups) fails) ∧
    ∀ (w : Wardrobe τ α σ ω φ) (limit : SizeLimit) (items : List α) (weight : α → φ)
        (slotsOf : α → List σ),
      (∀ a ∈ items.eraseDups, Call.Ends (w.weighing.number a) (· = weight a) fails) →
      (∀ a ∈ items.eraseDups, Call.Ends (w.slots a) (· = slotsOf a) fails) →
      (∀ a ∈ items.eraseDups, Call.Ends (w.labels.vertex a) (fun _ ↦ True) fails) →
      Tabled w (finalists w.absent weight slotsOf items.eraseDups) fails →
      (∀ n e, limit.exceededBy n = .error e → fails e) →
      Call.Ends (find w limit items)
        (fun S ↦ Independent (fun a b ↦ shareSlot (slotsOf a) (slotsOf b)) items.eraseDups S ∧
          ∀ a ∈ S, ¬ weight a ≤ 0) fails := by
  refine ⟨fun labels limit vertices conflict weighing p hconflict hsymm hnumber hcompare hlabels
    hlimit ↦ ?_, fun w limit items weight slotsOf hweights hslots hlabels htable hlimit ↦ ?_⟩
  · have hp := SymmetricOn.of_ne (distinct_eraseDups vertices).nodup hsymm
    exact ⟨ByComponent.find_ends_independent hconflict hp hnumber hcompare hlabels hlimit,
      Exhaustive.find_ends_independent hconflict hp hnumber hlabels⟩
  · exact find_ends_independent hweights hslots hlabels htable hlimit

theorem selections_independent_sample :
    (Call.Ends
        (ByComponent.find ⟨fun v ↦ pure (toString v), toString⟩ (.ofInt 2) Sample.vertices
          (fun a b ↦ (pure (Sample.conflict a b) : Call Unit Bool)) (.known Sample.floatWeight))
        (Independent Sample.conflict Sample.vertices.eraseDups) (fun _ ↦ False) ∧
      Call.Ends
        (Exhaustive.find ⟨fun v ↦ pure (toString v), toString⟩ Sample.vertices
          (fun a b ↦ (pure (Sample.conflict a b) : Call Unit Bool)) (.known Sample.floatWeight))
        (Independent Sample.conflict Sample.vertices.eraseDups) fun _ ↦ False) ∧
      Call.Ends (find Sample.floatWardrobe (.ofInt 2) Sample.items)
        (fun S ↦ Independent
            (fun a b ↦ shareSlot ((Sample.slotsOf a).filter (0 < ·))
              ((Sample.slotsOf b).filter (0 < ·)))
            Sample.items.eraseDups S ∧
          ∀ a ∈ S, ¬ Sample.floatWeight a ≤ 0) fun _ ↦ False :=
  have h := selections_independent (τ := Unit) (α := Nat) (σ := Nat) (ω := Float) (φ := Float)
    fun _ ↦ False
  ⟨h.1 _ _ _ _ _ _ (fun _ _ _ _ ↦ .pure rfl) (by decide) (fun _ _ ↦ .pure trivial)
      (fun _ _ _ _ ↦ .pure trivial) (fun _ _ ↦ .pure trivial)
      SizeLimit.exceededBy_two_ne_error,
    h.2 _ _ _ _ _ (fun _ _ ↦ .pure rfl) (fun _ _ ↦ .pure rfl) (fun _ _ ↦ .pure trivial)
      (.of_total (fun _ _ ↦ rfl) (fun _ _ ↦ .pure trivial) fun _ _ _ _ ↦ .pure trivial)
      SizeLimit.exceededBy_two_ne_error⟩

end Feasible

end Gear

end Loadout
