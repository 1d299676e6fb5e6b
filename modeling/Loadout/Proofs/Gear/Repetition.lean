import Loadout.Proofs.Gear.Exactness
import Loadout.Proofs.Selection.Repetition

/-!
# Selecting from selected gear

Gear that has been selected is `Settled`: each item weighs something, no two occupy the same slots
or share one.  From settled gear nothing is taken away, whatever sums and comparisons of weights
mean: each candidate is the only one for its slots, and none is dominated, since no other candidate
lies in one of its slots, `Settled.considered_eq`.  So a run that is asked about the members of its own
answer answers them again, `find_ends_again`, as do the solvers for vertices, `selections_repeat`.
-/

namespace Loadout.Gear

variable {τ α σ ω φ ψ : Type} [BEq σ]

/-- Candidates that the reductions leave alone and that can be worn together. -/
structure Settled [Zero φ] [LE φ] (candidates : List (Candidate α σ φ)) : Prop where
  positive : ∀ c ∈ candidates, ¬ c.weight ≤ 0
  slots : ∀ c ∈ candidates, Distinct c.slots
  eq_of_occupied_eq : ∀ c ∈ candidates, ∀ d ∈ candidates,
    occupied c.slots = occupied d.slots → c = d
  apart : ∀ c ∈ candidates, ∀ d ∈ candidates, c ≠ d → clash c d = false

theorem Settled.of_subset [Zero φ] [LE φ] {candidates C : List (Candidate α σ φ)}
    (h : Settled candidates) (hsub : C ⊆ candidates) : Settled C where
  positive c hc := h.positive c (hsub hc)
  slots c hc := h.slots c (hsub hc)
  eq_of_occupied_eq c hc d hd := h.eq_of_occupied_eq c (hsub hc) d (hsub hd)
  apart c hc d hd := h.apart c (hsub hc) d (hsub hd)

/-- Slots for which there are no single items weigh nothing. -/
theorem separateWeight_eq_zero [Zero φ] [Add φ] {candidates : List (Candidate α σ φ)}
    {absent : α → Bool} {slots : List σ} (h : ∀ slot ∈ slots, winner? candidates [slot] = none) :
    separateWeight absent candidates slots = 0 := by
  induction slots with
  | nil => rfl
  | cons slot slots ih =>
    obtain ⟨hslot, hslots⟩ := List.forall_mem_cons.mp h
    rw [separateWeight, List.foldl_cons, hslot, ← separateWeight]
    exact ih hslots

section Reduction

variable [EquivBEq σ] [Zero φ] [LE φ] [DecidableLE φ] {candidates : List (Candidate α σ φ)}

/-- Every settled candidate is the winner for its slots. -/
theorem Settled.bestPerSlotSet_eq [LT φ] [DecidableLT φ] (h : Settled candidates)
    (hnodup : candidates.Nodup) (absent : α → Bool) :
    bestPerSlotSet absent candidates = candidates := by
  induction candidates using List.reverseRecOn with
  | nil => rfl
  | append_singleton candidates c ih =>
    have hself : c ∈ candidates ++ [c] := List.mem_append_right _ List.mem_cons_self
    have hleft := List.subset_append_left candidates [c]
    have hnone : winner? candidates c.slots = none := by
      refine List.find?_eq_none.mpr fun d hd hsame ↦ ?_
      have heq : occupied c.slots = occupied d.slots :=
        (sameSlots_iff (h.slots c hself) (h.slots d (hleft hd))).mp hsame
      have hcd := h.eq_of_occupied_eq c hself d (hleft hd) heq
      exact (List.nodup_append.mp hnodup).2.2 d hd c List.mem_cons_self hcd.symm
    rw [bestPerSlotSet, List.foldl_append, ← bestPerSlotSet,
      ih (h.of_subset hleft) (List.nodup_append.mp hnodup).1, List.foldl_cons, List.foldl_nil,
      consider, if_neg (h.positive c hself), hnone]

/-- No settled candidate is dominated. -/
theorem Settled.considered_eq [Add φ] (h : Settled candidates) (absent : α → Bool) :
    considered absent candidates = candidates := by
  refine List.filter_eq_self.mpr fun c hc ↦ ?_
  rw [Bool.not_eq_true', isDominated, Bool.and_eq_false_iff]
  by_cases hmany : 2 ≤ c.slots.length
  · right
    have hnone : ∀ slot ∈ c.slots, winner? candidates [slot] = none := by
      intro slot hslot
      by_contra hsome
      obtain ⟨d, hd⟩ := Option.ne_none_iff_exists'.mp hsome
      have hoccupied : occupied d.slots = occupied [slot] := occupied_of_winner h.slots hd
      obtain ⟨hmem, hsame⟩ := winner?_eq_some hd
      have hne : c ≠ d := by
        rintro rfl
        simp only [sameSlots, Bool.and_eq_true, beq_iff_eq, List.length_singleton] at hsame
        omega
      have hdisjoint := shareSlot_eq_false_iff.mp (h.apart c hc d hmem hne)
      rw [hoccupied] at hdisjoint
      exact Set.disjoint_left.mp hdisjoint (mem_occupied hslot) (mem_occupied List.mem_cons_self)
    rw [separateWeight_eq_zero hnone]
    exact decide_eq_false (h.positive c hc)
  · left
    exact decide_eq_false hmany

end Reduction

section Run

variable [BEq α] [EquivBEq α] [EquivBEq σ] [Zero φ] [Add φ] [LE φ] [DecidableLE φ] [LT φ]
variable [DecidableLT φ] {w : Wardrobe τ α σ ω φ} {limit : SizeLimit} {items S S' : List α}
variable {weight : α → φ} {slotsOf : α → List σ} {fails : Failure → Prop}

omit [EquivBEq σ] in
/-- Of settled candidates all are chosen. -/
theorem Settled.choose_ends {candidates : List (Candidate α σ φ)} (h : Settled candidates)
    (hdistinct : Distinct candidates)
    (hlabels : ∀ c ∈ candidates, Call.Ends (w.labels.vertex c.item) (fun _ ↦ True) fails) :
    Call.Ends (choose w limit candidates) (· = candidates) fails := by
  unfold choose
  split
  · exact .pure rfl
  · split
    · exact .pure rfl
    · have heq := hdistinct.eraseDups_eq
      have hall : Call.Ends
          (ByComponent.find (candidateLabels w) limit candidates
            (fun c d ↦ pure (shareSlot c.slots d.slots)) (.known (·.weight)))
          (· = candidates.eraseDups) fails := by
        refine ByComponent.find_ends_of_unrelated (p := clash) (fun _ _ _ _ ↦ .pure rfl) ?_ ?_
          <;> rw [heq]
        · exact h.apart
        · exact hlabels
      rwa [heq] at hall

/-- From items that make settled candidates all are selected. -/
theorem Settled.find_ends (h : Settled (S.map (candidateOf weight slotsOf)))
    (hdistinct : Distinct S)
    (hweights : ∀ a ∈ S, Call.Ends (w.weighing.number a) (· = weight a) fails)
    (hslots : ∀ a ∈ S, Call.Ends (w.slots a) (· = slotsOf a) fails)
    (hlabels : ∀ a ∈ S, Call.Ends (w.labels.vertex a) (fun _ ↦ True) fails)
    (htable : Tabled w (S.map (candidateOf weight slotsOf)) fails) :
    Call.Ends (find w limit S) (· = S) fails := by
  have heq := hdistinct.eraseDups_eq
  have hcandidates : Distinct (S.map (candidateOf weight slotsOf)) :=
    List.pairwise_map.mpr hdistinct
  have hreduced : finalists w.absent weight slotsOf S.eraseDups =
      S.map (candidateOf weight slotsOf) := by
    rw [heq, finalists, h.bestPerSlotSet_eq hcandidates.nodup, h.considered_eq]
  have hchoose : Call.Ends (choose w limit (finalists w.absent weight slotsOf S.eraseDups))
      (· = S.map (candidateOf weight slotsOf)) fails := by
    rw [hreduced]
    exact h.choose_ends hcandidates fun c hc ↦ hlabels _ (mem_candidates hc).1
  refine (Gear.find_ends (by rwa [heq]) (by rwa [heq]) (by rwa [hreduced]) hchoose).mono
    fun R hR ↦ ?_
  obtain ⟨C, rfl, rfl⟩ := hR
  rw [List.map_map]
  exact List.map_id' S

/-- What is selected makes settled candidates. -/
theorem settled_selection (hdistinct : Distinct items) (absent : α → Bool) (weight : α → φ)
    (slotsOf : α → List σ) :
    Settled ((selection absent weight slotsOf items).map (candidateOf weight slotsOf)) := by
  have hbest := winners_bestPerSlotSet absent (distinct_slots_candidates weight slotsOf items)
  obtain ⟨hindependent, hpositive⟩ := independent_selection hdistinct absent weight slotsOf
  have hwins : ∀ c ∈ (selection absent weight slotsOf items).map (candidateOf weight slotsOf),
      c ∈ bestPerSlotSet absent (items.map (candidateOf weight slotsOf)) := by
    intro c hc
    obtain ⟨a, ha, rfl⟩ := List.mem_map.mp hc
    exact candidateOf_mem_bestPerSlotSet hdistinct ha
  refine ⟨fun c hc ↦ ?_, distinct_slots_candidates weight slotsOf _, fun c hc d hd ↦ ?_,
    (independent_candidates hindependent).apart⟩
  · obtain ⟨a, ha, rfl⟩ := List.mem_map.mp hc
    exact hpositive a ha
  · exact hbest.eq_of_occupied_eq (hwins c hc) (hwins d hd)

/-- What has been selected is selected again when the run is asked about it only, in whatever order
it comes.  The table of the second run is one of some of the candidates in the first. -/
theorem find_ends_again
    (hweights : ∀ a ∈ items.eraseDups, Call.Ends (w.weighing.number a) (· = weight a) fails)
    (hslots : ∀ a ∈ items.eraseDups, Call.Ends (w.slots a) (· = slotsOf a) fails)
    (hlabels : ∀ a ∈ items.eraseDups, Call.Ends (w.labels.vertex a) (fun _ ↦ True) fails)
    (htables : ∀ candidates ⊆ finalists w.absent weight slotsOf items.eraseDups,
      Tabled w candidates fails)
    (hlimit : ∀ n e, limit.exceededBy n = .error e → fails e) :
    Call.Ends (find w limit items)
      (fun S ↦ ∀ S', S'.Perm S → Call.Ends (find w limit S') (·.Perm S) fails) fails := by
  have hdistinct := distinct_eraseDups items
  refine (find_ends_selection hweights hslots hlabels (htables _ (List.Subset.refl _)) hlimit).mono
    fun S hS S' hperm ↦ ?_
  subst hS
  have hindependent := (independent_selection hdistinct w.absent weight slotsOf).1
  have hsub := List.Subset.trans hperm.subset hindependent.subset
  have hdistinct' : Distinct S' :=
    hdistinct.of_subset (hperm.nodup_iff.mpr hindependent.nodup) hsub
  have hsettled : Settled (S'.map (candidateOf weight slotsOf)) :=
    (settled_selection hdistinct w.absent weight slotsOf).of_subset (hperm.map _).subset
  have hfinalists : S'.map (candidateOf weight slotsOf) ⊆
      finalists w.absent weight slotsOf items.eraseDups := by
    intro c hc
    obtain ⟨a, ha, rfl⟩ := List.mem_map.mp hc
    exact candidateOf_mem_of_mem_selection hdistinct (hperm.subset ha)
  refine (hsettled.find_ends hdistinct' (fun a ha ↦ hweights a (hsub ha))
    (fun a ha ↦ hslots a (hsub ha)) (fun a ha ↦ hlabels a (hsub ha))
    (htables _ hfinalists)).mono fun R hR ↦ ?_
  rwa [hR]

/-- Solving a solution again changes nothing: asked about the members of what they have answered,
each solver answers all of them.  Of weights this needs nothing, except that the exhaustive search
must be able to add them up exactly.  Where something cannot be printed or a table cannot be laid
out, a run may fail as that does. -/
theorem selections_repeat [AddCommGroup ψ] [LinearOrder ψ] (fails : Failure → Prop) :
    (∀ (labels : Labels τ α φ) (limit : SizeLimit) (vertices : List α)
        (conflict : α → α → Call τ Bool) (weighing : Weighing τ α ω φ) (p : α → α → Bool),
      (∀ a ∈ vertices.eraseDups, ∀ b ∈ vertices.eraseDups,
        Call.Ends (conflict a b) (· = p a b) fails) →
      (∀ a ∈ vertices.eraseDups, ∀ b ∈ vertices.eraseDups, a ≠ b → p a b = p b a) →
      (∀ a ∈ vertices.eraseDups, Call.Ends (weighing.number a) (fun _ ↦ True) fails) →
      (∀ a ∈ vertices.eraseDups, ∀ b ∈ vertices.eraseDups,
        Call.Ends (weighing.compare a b) (fun _ ↦ True) fails) →
      (∀ a ∈ vertices.eraseDups, Call.Ends (labels.vertex a) (fun _ ↦ True) fails) →
      (∀ n e, limit.exceededBy n = .error e → fails e) →
      Call.Ends (ByComponent.find labels limit vertices conflict weighing)
        (fun S ↦ ∀ S', S'.Perm S →
          Call.Ends (ByComponent.find labels limit S' conflict weighing) (·.Perm S) fails) fails) ∧
    (∀ (labels : Labels τ α ψ) (vertices : List α) (conflict : α → α → Call τ Bool)
        (weighing : Weighing τ α ω ψ) (p : α → α → Bool) (weight : α → ψ),
      (∀ a ∈ vertices.eraseDups, ∀ b ∈ vertices.eraseDups,
        Call.Ends (conflict a b) (· = p a b) fails) →
      (∀ a ∈ vertices.eraseDups, ∀ b ∈ vertices.eraseDups, a ≠ b → p a b = p b a) →
      (∀ a ∈ vertices.eraseDups, Call.Ends (weighing.number a) (· = weight a) fails) →
      (∀ a ∈ vertices.eraseDups, Call.Ends (labels.vertex a) (fun _ ↦ True) fails) →
      Call.Ends (Exhaustive.find labels vertices conflict weighing)
        (fun S ↦ ∀ S', S'.Perm S →
          Call.Ends (Exhaustive.find labels S' conflict weighing) (·.Perm S) fails) fails) ∧
    ∀ (w : Wardrobe τ α σ ω φ) (limit : SizeLimit) (items : List α) (weight : α → φ)
        (slotsOf : α → List σ),
      (∀ a ∈ items.eraseDups, Call.Ends (w.weighing.number a) (· = weight a) fails) →
      (∀ a ∈ items.eraseDups, Call.Ends (w.slots a) (· = slotsOf a) fails) →
      (∀ a ∈ items.eraseDups, Call.Ends (w.labels.vertex a) (fun _ ↦ True) fails) →
      (∀ candidates ⊆ finalists w.absent weight slotsOf items.eraseDups,
        Tabled w candidates fails) →
      (∀ n e, limit.exceededBy n = .error e → fails e) →
      Call.Ends (find w limit items)
        (fun S ↦ ∀ S', S'.Perm S → Call.Ends (find w limit S') (·.Perm S) fails) fails := by
  refine ⟨fun labels limit vertices conflict weighing p hconflict hsymm hnumber hcompare hlabels
      hlimit ↦ ?_,
    fun labels vertices conflict weighing p weight hconflict hsymm hnumber hlabels ↦ ?_,
    fun w limit items weight slotsOf hweights hslots hlabels htables hlimit ↦ ?_⟩
  · have hdistinct := distinct_eraseDups vertices
    have hp := SymmetricOn.of_ne hdistinct.nodup hsymm
    exact (ByComponent.find_ends_independent hconflict hp hnumber hcompare hlabels hlimit).mono
      fun S hS S' hperm ↦ ByComponent.find_ends_of_independent hdistinct hconflict hlabels hS hperm
  · have hp := SymmetricOn.of_ne (distinct_eraseDups vertices).nodup hsymm
    exact Exhaustive.find_ends_again hp hconflict hnumber hlabels
  · exact find_ends_again hweights hslots hlabels htables hlimit

theorem selections_repeat_sample :
    Call.Ends
        (ByComponent.find ⟨fun v ↦ pure (toString v), toString⟩ (.ofInt 2) Sample.vertices
          (fun a b ↦ (pure (Sample.conflict a b) : Call Unit Bool)) (.known Sample.floatWeight))
        (fun S ↦ ∀ S', S'.Perm S → Call.Ends
          (ByComponent.find ⟨fun v ↦ pure (toString v), toString⟩ (.ofInt 2) S'
            (fun a b ↦ (pure (Sample.conflict a b) : Call Unit Bool)) (.known Sample.floatWeight))
          (·.Perm S) fun _ ↦ False) (fun _ ↦ False) ∧
      Call.Ends
        (Exhaustive.find Sample.labels Sample.vertices (fun a b ↦ pure (Sample.conflict a b))
          (.known Sample.weight))
        (fun S ↦ ∀ S', S'.Perm S → Call.Ends
          (Exhaustive.find Sample.labels S' (fun a b ↦ pure (Sample.conflict a b))
            (.known Sample.weight)) (·.Perm S) fun _ ↦ False) (fun _ ↦ False) ∧
      Call.Ends (find Sample.floatWardrobe (.ofInt 2) Sample.items)
        (fun S ↦ ∀ S', S'.Perm S →
          Call.Ends (find Sample.floatWardrobe (.ofInt 2) S') (·.Perm S) fun _ ↦ False)
        fun _ ↦ False := by
  obtain ⟨hcomponents, -, hgear⟩ := selections_repeat (τ := Unit) (α := Nat) (σ := Nat)
    (ω := Float) (φ := Float) (ψ := Int) fun _ ↦ False
  obtain ⟨-, hsearch, -⟩ := selections_repeat (τ := Unit) (α := Nat) (σ := Nat) (ω := Int)
    (φ := Float) (ψ := Int) fun _ ↦ False
  refine ⟨?_, ?_, ?_⟩
  · exact hcomponents _ _ _ _ _ _ (fun _ _ _ _ ↦ .pure rfl) (by decide) (fun _ _ ↦ .pure trivial)
      (fun _ _ _ _ ↦ .pure trivial) (fun _ _ ↦ .pure trivial)
      SizeLimit.exceededBy_two_ne_error
  · exact @hsearch _ _ _ _ Sample.conflict Sample.weight (fun _ _ _ _ ↦ .pure rfl) (by decide)
      (fun _ _ ↦ .pure rfl) (fun _ _ ↦ .pure trivial)
  · exact hgear _ _ _ _ _ (fun _ _ ↦ .pure rfl) (fun _ _ ↦ .pure rfl) (fun _ _ ↦ .pure trivial)
      (fun _ _ ↦ .of_total (fun _ _ ↦ rfl) (fun _ _ ↦ .pure trivial) fun _ _ _ _ ↦ .pure trivial)
      SizeLimit.exceededBy_two_ne_error

end Run

end Loadout.Gear
