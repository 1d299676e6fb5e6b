import Loadout.Proofs.Gear.Exactness
import Mathlib.Algebra.Group.Ext
import Mathlib.Data.List.Permutation

/-!
# One more candidate that never wins

A candidate that weighs nothing or less, or that is lighter than another one for the same slots, is
not a winner, and the other winners stay what they are, `mem_bestPerSlotSet_insert_iff`.  It can
change where one of them stands, if its set of slots did not occur before it.  As long as it does
not, the same gear is selected with it and without it, `find_insertion`.  Otherwise another selection
of the same weight may take the place, `find_insertion_changes`.
-/

namespace Loadout.Gear

/-- The place of an element of a list, compared with a place between two others. -/
theorem append_eq_append_cons {β : Type} {before after earlier later : List β} {b : β}
    (h : before ++ after = earlier ++ b :: later) :
    (∃ between, earlier = before ++ between ∧ after = between ++ b :: later) ∨
      ∃ between, before = earlier ++ b :: between ∧ later = between ++ after := by
  rcases List.append_eq_append_iff.mp h with ⟨between, hearlier, hafter⟩ | ⟨between, hbefore, hrest⟩
  · exact .inl ⟨between, hearlier, hafter⟩
  · cases between with
    | nil => exact .inl ⟨[], by simpa using hbefore.symm, hrest.symm⟩
    | cons d between =>
      rw [List.cons_append] at hrest
      obtain ⟨rfl, hlater⟩ := List.cons.inj hrest
      exact .inr ⟨between, hbefore, hlater⟩

/-- Two lists with the same members are the same if the members are told apart by a function and
the lists are the same under it. -/
theorem eq_of_map_eq {β γ : Type} {f : β → γ} {xs ys : List β} (hmem : ∀ b, b ∈ ys → b ∈ xs)
    (hinj : ∀ a ∈ xs, ∀ b ∈ xs, f a = f b → a = b) (h : xs.map f = ys.map f) : xs = ys := by
  have hlength : xs.length = ys.length := by simpa using congrArg List.length h
  refine List.ext_getElem hlength fun i hi hi' ↦ ?_
  have hat : (xs.map f)[i]? = (ys.map f)[i]? := by rw [h]
  rw [List.getElem?_map, List.getElem?_map, List.getElem?_eq_getElem hi,
    List.getElem?_eq_getElem hi'] at hat
  exact hinj _ (List.getElem_mem hi) _ (hmem _ (List.getElem_mem hi')) (Option.some.inj hat)

section Candidates

variable {α σ φ : Type} [BEq σ] {before after : List (Candidate α σ φ)} {c x y : Candidate α σ φ}

theorem bestPerSlotSet_insert_of_nonpos [Zero φ] [LE φ] [DecidableLE φ] [LT φ] [DecidableLT φ]
    (absent : α → Bool) (hx : x.weight ≤ 0) :
    bestPerSlotSet absent (before ++ x :: after) = bestPerSlotSet absent (before ++ after) := by
  rw [bestPerSlotSet, bestPerSlotSet, List.foldl_append, List.foldl_append, List.foldl_cons,
    consider, if_pos hx]

/-- A candidate that is outweighed for its slots does not change which ones lead. -/
theorem leads_insert_iff [LinearOrder φ] (hy : y ∈ before ++ after)
    (hsame : occupied y.slots = occupied x.slots) (hlt : x.weight < y.weight) :
    Leads (before ++ x :: after) c ↔ Leads (before ++ after) c := by
  have hsub := ((List.sublist_cons_self x after).append_left before).subset
  constructor
  · intro h
    have hne : c ≠ x := by
      rintro rfl
      exact absurd (h.le (hsub hy) hsame) (not_le.mpr hlt)
    obtain ⟨earlier, later, hsplit, hearlier, hlater⟩ := h
    rcases append_eq_append_cons hsplit with ⟨between, rfl, hafter⟩ | ⟨between, rfl, rfl⟩
    · cases between with
      | nil => exact absurd (List.cons.inj hafter).1.symm hne
      | cons d between =>
        rw [List.cons_append] at hafter
        obtain ⟨rfl, rfl⟩ := List.cons.inj hafter
        refine ⟨before ++ between, later, by simp, fun e he ↦ hearlier e ?_, hlater⟩
        simp only [List.mem_append, List.mem_cons] at he ⊢
        tauto
    · refine ⟨earlier, between ++ after, by simp, hearlier, fun e he ↦ hlater e ?_⟩
      simp only [List.mem_append, List.mem_cons] at he ⊢
      tauto
  · intro h
    have hless : occupied x.slots = occupied c.slots → x.weight < c.weight := fun heq ↦
      hlt.trans_le (h.le hy (hsame.trans heq))
    obtain ⟨earlier, later, hsplit, hearlier, hlater⟩ := h
    rcases append_eq_append_cons hsplit with ⟨between, rfl, rfl⟩ | ⟨between, rfl, rfl⟩
    · refine ⟨before ++ x :: between, later, by simp, fun e he heq ↦ ?_, hlater⟩
      by_cases hex : e = x
      · rw [hex] at heq ⊢
        exact hless heq
      · refine hearlier e ?_ heq
        simp only [List.mem_append, List.mem_cons] at he ⊢
        tauto
    · refine ⟨earlier, between ++ x :: after, by simp, hearlier, fun e he heq ↦ ?_⟩
      by_cases hex : e = x
      · rw [hex] at heq ⊢
        exact le_of_lt (hless heq)
      · refine hlater e ?_ heq
        simp only [List.mem_append, List.mem_cons] at he ⊢
        tauto

section Winners

variable [EquivBEq σ] [Zero φ] [LinearOrder φ] {absent : α → Bool}

/-- The winners are the same with a candidate that is outweighed for its slots and without it. -/
theorem mem_bestPerSlotSet_insert_iff (hslots : ∀ c ∈ before ++ x :: after, Distinct c.slots)
    (hpresent : ∀ c ∈ before ++ x :: after, absent c.item = false) (hy : y ∈ before ++ after)
    (hsame : occupied y.slots = occupied x.slots) (hlt : x.weight < y.weight) :
    c ∈ bestPerSlotSet absent (before ++ x :: after) ↔
      c ∈ bestPerSlotSet absent (before ++ after) := by
  have hsub := ((List.sublist_cons_self x after).append_left before).subset
  rw [mem_bestPerSlotSet_iff hslots hpresent,
    mem_bestPerSlotSet_iff (fun d hd ↦ hslots d (hsub hd)) fun d hd ↦ hpresent d (hsub hd),
    leads_insert_iff hy hsame hlt]

/-- They stand in the same order, unless it changes where its set of slots occurs first. -/
theorem bestPerSlotSet_insert (hslots : ∀ c ∈ before ++ x :: after, Distinct c.slots)
    (hpresent : ∀ c ∈ before ++ x :: after, absent c.item = false) (hy : y ∈ before ++ after)
    (hsame : occupied y.slots = occupied x.slots) (hlt : x.weight < y.weight)
    (horder : slotOrder (before ++ x :: after) = slotOrder (before ++ after)) :
    bestPerSlotSet absent (before ++ x :: after) = bestPerSlotSet absent (before ++ after) := by
  have hsub := ((List.sublist_cons_self x after).append_left before).subset
  have hbest := winners_bestPerSlotSet absent hslots
  refine eq_of_map_eq
    (fun d hd ↦ (mem_bestPerSlotSet_insert_iff hslots hpresent hy hsame hlt).mpr hd)
    (fun d hd e he ↦ hbest.eq_of_occupied_eq hd he) ?_
  rw [map_occupied_bestPerSlotSet absent hslots, horder,
    map_occupied_bestPerSlotSet absent fun d hd ↦ hslots d (hsub hd)]

end Winners

end Candidates

end Loadout.Gear

/-! ## A sample wardrobe -/

namespace Loadout.Sample

/-- Three items for two slots each, the last two for the same ones. -/
def strapSlots (a : Nat) : List Nat :=
  [[1, 2], [2, 3], [3, 2]].getD a [0]

/-- The first two items weigh the same, and the last one is lighter. -/
def strapWeight (a : Nat) : Int :=
  [2, 2, 1].getD a 0

def straps : Gear.Wardrobe Unit Nat Nat Int Int where
  weighing := .known strapWeight
  slots a := pure (strapSlots a)
  labels := { vertex := fun a ↦ pure (toString a), weight := fun n ↦ toString n }
  slotLabel s := pure (toString s)
  tabulate _ _ := .ok ()
  absent _ := false

/-- The second item stands for an empty place. -/
def emptyStraps : Gear.Wardrobe Unit Nat Nat Int Int :=
  { straps with absent := (· == 1) }

/-- The last two items are for the same slots. -/
theorem occupied_straps : Gear.occupied (strapSlots 1) = Gear.occupied (strapSlots 2) := by
  have hdistinct : Distinct (strapSlots 1) ∧ Distinct (strapSlots 2) := by decide
  exact (Gear.sameSlots_iff hdistinct.1 hdistinct.2).mp (by decide)

end Loadout.Sample

namespace Loadout.Gear

section Items

variable {τ α σ ω φ : Type} [BEq α] [EquivBEq α] [BEq σ] [EquivBEq σ]
variable {before after : List α} {x : α} {slotsOf : α → List σ} {absent : α → Bool}

variable [AddCommGroup φ] [LinearOrder φ] {weight : α → φ}

/-- An item that cannot win: it weighs nothing or less, or another one for the same slots is
heavier. -/
def Outweighed (weight : α → φ) (slotsOf : α → List σ) (items : List α) (x : α) : Prop :=
  weight x ≤ 0 ∨ ∃ y ∈ items, occupied (slotsOf y) = occupied (slotsOf x) ∧ weight x < weight y

/-- The sets of slots of the items that weigh something, in the order in which they occur first. -/
noncomputable def slotOrderOf (weight : α → φ) (slotsOf : α → List σ) (items : List α) :
    List (Set σ) :=
  slotOrder (items.map (candidateOf weight slotsOf))

/-- What cannot win is not selected. -/
theorem not_mem_selection_of_outweighed (hdistinct : Distinct (before ++ x :: after))
    (hpresent : ∀ a ∈ before ++ x :: after, absent a = false)
    (hx : Outweighed weight slotsOf (before ++ after) x) :
    x ∉ selection absent weight slotsOf (before ++ x :: after) := by
  intro hmem
  have hwins := candidateOf_mem_bestPerSlotSet hdistinct hmem
  rw [mem_bestPerSlotSet_iff (distinct_slots_candidates weight slotsOf _)
    fun c hc ↦ hpresent _ (mem_candidates hc).1] at hwins
  obtain ⟨hpos, hleads⟩ := hwins
  rcases hx with hle | ⟨y, hy, hsame, hlt⟩
  · exact absurd hpos (not_lt.mpr hle)
  · have hle := hleads.le (d := candidateOf weight slotsOf y) ?_ ?_
    · exact absurd hle (not_le.mpr hlt)
    · exact List.mem_map_of_mem (((List.sublist_cons_self x after).append_left before).subset hy)
    · simpa only [candidateOf, occupied_eraseDups] using hsame

omit [BEq α] [EquivBEq α] [EquivBEq σ] in
/-- Without an item that weighs nothing or less the same is selected. -/
theorem selection_insert_of_nonpos (hle : weight x ≤ 0) :
    selection absent weight slotsOf (before ++ x :: after) =
      selection absent weight slotsOf (before ++ after) := by
  rw [selection, selection, finalists, finalists, List.map_append, List.map_append, List.map_cons,
    bestPerSlotSet_insert_of_nonpos (x := candidateOf weight slotsOf x) absent hle]

omit [BEq α] [EquivBEq α] in
/-- The same is selected, unless the item changes where its set of slots occurs first. -/
theorem selection_insert (hpresent : ∀ a ∈ before ++ x :: after, absent a = false)
    (hx : Outweighed weight slotsOf (before ++ after) x)
    (horder : slotOrderOf weight slotsOf (before ++ x :: after) =
      slotOrderOf weight slotsOf (before ++ after)) :
    selection absent weight slotsOf (before ++ x :: after) =
      selection absent weight slotsOf (before ++ after) := by
  rcases hx with hle | ⟨y, hy, hsame, hlt⟩
  · exact selection_insert_of_nonpos hle
  · have hslots := distinct_slots_candidates weight slotsOf (before ++ x :: after)
    have hpresent' : ∀ c ∈ (before ++ x :: after).map (candidateOf weight slotsOf),
        absent c.item = false := fun c hc ↦ hpresent _ (mem_candidates hc).1
    rw [slotOrderOf, slotOrderOf] at horder
    rw [selection, selection, finalists, finalists]
    simp only [List.map_append, List.map_cons] at hslots hpresent' horder ⊢
    rw [bestPerSlotSet_insert hslots hpresent' (y := candidateOf weight slotsOf y) ?_ ?_ hlt horder]
    · rw [← List.map_append]
      exact List.mem_map_of_mem hy
    · simpa only [candidateOf, occupied_eraseDups] using hsame

/-- In any case what is selected has the same weight. -/
theorem total_selection_insert [IsOrderedAddMonoid φ] (hdistinct : Distinct (before ++ x :: after))
    (hnonempty : ∀ a ∈ before ++ x :: after, slotsOf a ≠ [])
    (hpresent : ∀ a ∈ before ++ x :: after, absent a = false)
    (hx : Outweighed weight slotsOf (before ++ after) x) :
    Independent (fun a b ↦ shareSlot (slotsOf a) (slotsOf b)) (before ++ after)
        (selection absent weight slotsOf (before ++ x :: after)) ∧
      total weight (selection absent weight slotsOf (before ++ x :: after)) =
        total weight (selection absent weight slotsOf (before ++ after)) := by
  have hsub := (List.sublist_cons_self x after).append_left before
  have hwith := (independent_selection hdistinct absent weight slotsOf).1
  have hwithout := (independent_selection (hdistinct.sublist hsub) absent weight slotsOf).1
  have hx := not_mem_selection_of_outweighed hdistinct hpresent hx
  have hindependent : Independent (fun a b ↦ shareSlot (slotsOf a) (slotsOf b)) (before ++ after)
      (selection absent weight slotsOf (before ++ x :: after)) := by
    refine ⟨fun a ha ↦ ?_, hwith.nodup, hwith.apart⟩
    have hmem := hwith.subset ha
    have hne : a ≠ x := fun heq ↦ hx (heq ▸ ha)
    simp only [List.mem_append, List.mem_cons] at hmem ⊢
    tauto
  refine ⟨hindependent, le_antisymm ?_ ?_⟩
  · exact total_le_total_selection (hdistinct.sublist hsub)
      (fun a ha ↦ hnonempty a (hsub.subset ha)) (fun a ha ↦ hpresent a (hsub.subset ha))
      hindependent
  · exact total_le_total_selection hdistinct hnonempty hpresent (hwithout.mono hsub.subset)

/-- With one item more that cannot win, what is selected weighs the same and can be worn together
without it.  It is the same unless the item changes where its set of slots occurs first.  An item
that stands for an empty place gives way to anything, so there must be none if the new one weighs
something.  Where an item cannot be printed or a table cannot be laid out, a run may fail as that
does. -/
theorem find_insertion [IsOrderedAddMonoid φ] {w : Wardrobe τ α σ ω φ} {limit : SizeLimit}
    {fails : Failure → Prop} (hnew : ∀ a ∈ before ++ after, (a == x) = false)
    (hx : Outweighed weight slotsOf (before ++ after).eraseDups x)
    (hweights : ∀ a ∈ (before ++ x :: after).eraseDups,
      Call.Ends (w.weighing.number a) (· = weight a) fails)
    (hslots : ∀ a ∈ (before ++ x :: after).eraseDups, Call.Ends (w.slots a) (· = slotsOf a) fails)
    (hnonempty : ∀ a ∈ (before ++ x :: after).eraseDups, slotsOf a ≠ [])
    (hpresent : 0 < weight x → ∀ a ∈ (before ++ x :: after).eraseDups, w.absent a = false)
    (hlabels : ∀ a ∈ (before ++ x :: after).eraseDups,
      Call.Ends (w.labels.vertex a) (fun _ ↦ True) fails)
    (htable : Tabled w (finalists w.absent weight slotsOf (before ++ after).eraseDups) fails)
    (htable' : Tabled w (finalists w.absent weight slotsOf (before ++ x :: after).eraseDups) fails)
    (hlimit : ∀ n e, limit.exceededBy n = .error e → fails e) :
    ∃ S S' : List α,
      Call.Ends (find w limit (before ++ after)) (· = S) fails ∧
      Call.Ends (find w limit (before ++ x :: after)) (· = S') fails ∧
      Independent (fun a b ↦ shareSlot (slotsOf a) (slotsOf b)) (before ++ after).eraseDups S' ∧
      (∀ a ∈ S', 0 < weight a) ∧
      total weight S' = total weight S ∧
      (weight x ≤ 0 ∨
          slotOrderOf weight slotsOf (before ++ x :: after).eraseDups =
            slotOrderOf weight slotsOf (before ++ after).eraseDups →
        S' = S) := by
  have hdistinct := distinct_eraseDups (before ++ x :: after)
  obtain ⟨before', after', hwithout, hwith⟩ := eraseDups_insert hnew
  have hsub : (before ++ after).eraseDups ⊆ (before ++ x :: after).eraseDups := by
    rw [hwithout, hwith]
    exact ((List.sublist_cons_self x after').append_left before').subset
  have hfirst : Call.Ends (find w limit (before ++ after))
      (· = selection w.absent weight slotsOf (before ++ after).eraseDups) fails :=
    find_ends_selection (fun a ha ↦ hweights a (hsub ha)) (fun a ha ↦ hslots a (hsub ha))
      (fun a ha ↦ hlabels a (hsub ha)) htable hlimit
  have hsecond := find_ends_selection hweights hslots hlabels htable' hlimit
  refine ⟨_, _, hfirst, hsecond, ?_⟩
  rw [hwith] at hdistinct hnonempty hpresent
  rw [hwithout] at hx
  rw [hwith, hwithout]
  have hpositive := (independent_selection hdistinct w.absent weight slotsOf).2
  by_cases hle : weight x ≤ 0
  · have hsame : selection w.absent weight slotsOf (before' ++ x :: after') =
        selection w.absent weight slotsOf (before' ++ after') := selection_insert_of_nonpos hle
    have hdistinct' : Distinct (before' ++ after') :=
      hdistinct.sublist ((List.sublist_cons_self x after').append_left before')
    rw [hsame] at hpositive ⊢
    exact ⟨(independent_selection hdistinct' w.absent weight slotsOf).1,
      fun a ha ↦ not_le.mp (hpositive a ha), rfl, fun _ ↦ rfl⟩
  · have hpresent := hpresent (not_le.mp hle)
    obtain ⟨hindependent, htotal⟩ := total_selection_insert hdistinct hnonempty hpresent hx
    exact ⟨hindependent, fun a ha ↦ not_le.mp (hpositive a ha), htotal,
      fun horder ↦ selection_insert hpresent hx (horder.resolve_left hle)⟩

theorem find_insertion_sample :
    ((∀ a ∈ [1] ++ [0, 1], (a == 2) = false) ∧
      Outweighed Sample.strapWeight Sample.strapSlots ([1] ++ [0, 1]).eraseDups 2 ∧
      ∀ a ∈ ([1] ++ 2 :: [0, 1]).eraseDups, Sample.strapSlots a ≠ []) ∧
    ∃ S S' : List Nat,
      Call.Ends (find Sample.straps (.ofInt 2) ([1] ++ [0, 1])) (· = S) (fun _ ↦ False) ∧
      Call.Ends (find Sample.straps (.ofInt 2) ([1] ++ 2 :: [0, 1])) (· = S') (fun _ ↦ False) ∧
      Independent (fun a b ↦ shareSlot (Sample.strapSlots a) (Sample.strapSlots b))
        ([1] ++ [0, 1]).eraseDups S' ∧
      (∀ a ∈ S', 0 < Sample.strapWeight a) ∧
      total Sample.strapWeight S' = total Sample.strapWeight S ∧
      (Sample.strapWeight 2 ≤ 0 ∨
          slotOrderOf Sample.strapWeight Sample.strapSlots ([1] ++ 2 :: [0, 1]).eraseDups =
            slotOrderOf Sample.strapWeight Sample.strapSlots ([1] ++ [0, 1]).eraseDups →
        S' = S) := by
  have houtweighed : Outweighed Sample.strapWeight Sample.strapSlots ([1] ++ [0, 1]).eraseDups 2 :=
    .inr ⟨1, by decide, Sample.occupied_straps, by decide⟩
  exact ⟨⟨by decide, houtweighed, by decide⟩,
    find_insertion (by decide) houtweighed (fun _ _ ↦ .pure rfl) (fun _ _ ↦ .pure rfl) (by decide)
      (fun _ _ _ ↦ rfl) (fun _ _ ↦ .pure trivial)
      (.of_total (fun _ _ ↦ rfl) (fun _ _ ↦ .pure trivial) fun _ _ _ _ ↦ .pure trivial)
      (.of_total (fun _ _ ↦ rfl) (fun _ _ ↦ .pure trivial) fun _ _ _ _ ↦ .pure trivial)
      SizeLimit.exceededBy_two_ne_error⟩

/-- A lighter item that stands before all others for its slots makes another selection of the same
weight come first.  To an item that stands for an empty place every later one is preferred, however
light. -/
theorem find_insertion_changes :
    (Outweighed Sample.strapWeight Sample.strapSlots [0, 1] 2 ∧
      (∀ a ∈ [2, 0, 1], Sample.strapSlots a ≠ []) ∧
      Call.Ends (find Sample.straps (.ofInt 2) [0, 1]) (· = [0]) (fun _ ↦ False) ∧
      Call.Ends (find Sample.straps (.ofInt 2) [2, 0, 1]) (· = [1]) fun _ ↦ False) ∧
    Outweighed Sample.strapWeight Sample.strapSlots [1] 2 ∧
      Call.Ends (find Sample.emptyStraps (.ofInt 2) [1]) (· = [1]) (fun _ ↦ False) ∧
      Call.Ends (find Sample.emptyStraps (.ofInt 2) [1, 2]) (· = [2]) fun _ ↦ False := by
  have hrun : ∀ (absent : Nat → Bool) items,
      Call.Ends (find { Sample.straps with absent := absent } (.ofInt 2) items)
        (· = selection absent Sample.strapWeight Sample.strapSlots items.eraseDups)
        fun _ ↦ False := fun _ _ ↦
    find_ends_selection (fun _ _ ↦ .pure rfl) (fun _ _ ↦ .pure rfl) (fun _ _ ↦ .pure trivial)
      (.of_total (fun _ _ ↦ rfl) (fun _ _ ↦ .pure trivial) fun _ _ _ _ ↦ .pure trivial)
      SizeLimit.exceededBy_two_ne_error
  refine ⟨⟨.inr ⟨1, by decide, Sample.occupied_straps, by decide⟩, by decide, ?_, ?_⟩,
    .inr ⟨1, by decide, Sample.occupied_straps, by decide⟩, ?_, ?_⟩
  · have h := @hrun (fun _ ↦ false) [0, 1]
    rwa [show selection (fun _ ↦ false) Sample.strapWeight Sample.strapSlots
      ([0, 1] : List Nat).eraseDups = [0] by cbv] at h
  · have h := @hrun (fun _ ↦ false) [2, 0, 1]
    rwa [show selection (fun _ ↦ false) Sample.strapWeight Sample.strapSlots
      ([2, 0, 1] : List Nat).eraseDups = [1] by cbv] at h
  · have h := @hrun (· == 1) [1]
    rwa [show selection (· == 1) Sample.strapWeight Sample.strapSlots
      ([1] : List Nat).eraseDups = [1] by cbv] at h
  · have h := @hrun (· == 1) [1, 2]
    rwa [show selection (· == 1) Sample.strapWeight Sample.strapSlots
      ([1, 2] : List Nat).eraseDups = [2] by cbv] at h

end Items

end Loadout.Gear
