import Loadout.Proofs.Sort.Insertion
import Loadout.Sort.Merge
import Mathlib.Order.OrderDual

/-!
# Merging sorted runs

Two sorted runs are merged into one, `mergeRuns_yields`, whatever the pace of the merge is and
whether it starts from the front or from the back.  What is merged, what is left of the runs and that
all of it together is what there was to begin with is one invariant, `Merging`.  It is kept when a
beginning of one of the runs is taken that may go before all that is left of the other one,
`Merging.takeNear` and `Merging.takeFar`, and a step of a merge does nothing else.

Galloping finds how many elements there are to take, `leading_yields`, since those that satisfy the
condition come first.
-/

namespace Loadout.Sort

/-! ## Galloping -/

section Gallop

variable {holds : Nat → Except Failure Bool} {k n low high : Nat}

theorem widen_yields (hholds : ∀ i, holds i = .ok (decide (i < k))) (hk : k ≤ n) {last next : Nat}
    (hlast : last < k) (hnext : last < next) :
    Yields (widen holds n last next) fun r ↦ r.1 < k ∧ k ≤ r.2 := by
  induction hm : n - next using Nat.strongRecOn generalizing last next with
  | ind m ih =>
    subst hm
    rw [widen]
    split
    next hlt =>
      rw [hholds]
      change Yields (if decide (next < k) = true then _ else _) _
      split
      next hnext => exact ih _ (by omega) (of_decide_eq_true hnext) (by omega) rfl
      next hnext => exact .pure ⟨hlast, by simpa using hnext⟩
    next => exact .pure ⟨hlast, hk⟩

theorem narrow_yields (hholds : ∀ i, holds i = .ok (decide (i < k))) (back : Bool) (hlow : low < k)
    (hhigh : k ≤ high + 1) : Yields (narrow holds back low high) (· = k) := by
  induction hm : high - low using Nat.strongRecOn generalizing low high with
  | ind m ih =>
    subst hm
    rw [narrow]
    split
    next hlt =>
      have hmiddle : ∃ middle,
          (if back then high - (high - low) / 2 else low + 1 + (high - low) / 2) = middle ∧
            low < middle ∧ middle ≤ high := by
        refine ⟨_, rfl, ?_⟩
        split <;> omega
      obtain ⟨middle, heq, hleft, hright⟩ := hmiddle
      simp only [heq, hholds]
      change Yields (if decide (middle < k) = true then _ else _) _
      split
      next hlt => exact ih _ (by omega) (of_decide_eq_true hlt) hhigh rfl
      next hge =>
        have hge : k ≤ middle := by simpa using hge
        exact ih _ (by omega) hlow (by omega) rfl
    next => exact .pure (by omega)

theorem gallop_yields (hholds : ∀ i, holds i = .ok (decide (i < k))) (hk : k ≤ n) (back : Bool) :
    Yields (gallop holds back n) (· = k) := by
  rw [gallop, hholds]
  change Yields (if decide (0 < k) = true then _ else _) _
  split
  next hpos =>
    have hpos := of_decide_eq_true hpos
    refine (widen_yields hholds hk hpos Nat.one_pos).bind fun r ⟨hlow, hhigh⟩ ↦ ?_
    exact narrow_yields hholds back hlow (by omega)
  next hzero => exact .pure (Nat.eq_zero_of_not_pos (by simpa using hzero)).symm

end Gallop

variable {α : Type} {xs ys : List α}

/-- If the elements that satisfy a condition come first, they are those before some place. -/
theorem exists_first {q : α → Bool} (hfirst : xs.Pairwise fun a b ↦ q b = true → q a = true) :
    ∃ n ≤ xs.length, ∀ i (hi : i < xs.length), q xs[i] = decide (i < n) := by
  induction xs with
  | nil => exact ⟨0, Nat.le_refl _, fun i hi ↦ absurd hi (Nat.not_lt_zero i)⟩
  | cons x xs ih =>
    obtain ⟨hx, hxs⟩ := List.pairwise_cons.mp hfirst
    obtain ⟨n, hn, hplace⟩ := ih hxs
    cases hq : q x with
    | true =>
      refine ⟨n + 1, Nat.succ_le_succ hn, fun i hi ↦ ?_⟩
      cases i with
      | zero => simpa using hq
      | succ i => simpa using hplace i (Nat.lt_of_succ_lt_succ hi)
    | false =>
      refine ⟨0, Nat.zero_le _, fun i hi ↦ ?_⟩
      cases i with
      | zero => simpa using hq
      | succ i =>
        have hlt := Nat.lt_of_succ_lt_succ hi
        simpa [hq] using hx xs[i] (List.getElem_mem hlt)

/-- Their number is found. -/
theorem leading_yields {holds : α → Except Failure Bool} {q : α → Bool}
    (hholds : ∀ x ∈ xs, holds x = .ok (q x))
    (hfirst : xs.Pairwise fun a b ↦ q b = true → q a = true) (back : Bool) :
    Yields (leading back holds xs) fun n ↦
      (∀ x ∈ xs.take n, q x = true) ∧ ∀ x ∈ xs.drop n, q x = false := by
  obtain ⟨n, hn, hplace⟩ := exists_first hfirst
  refine (gallop_yields (fun i ↦ ?_) hn back).mono fun m hm ↦ ?_
  · split
    next x hi =>
      obtain ⟨hlt, rfl⟩ := List.getElem?_eq_some_iff.mp hi
      rw [hholds _ (List.getElem_mem hlt), hplace i hlt]
    next hi =>
      have hle : xs.length ≤ i := List.getElem?_eq_none_iff.mp hi
      rw [decide_eq_false (by omega)]
  subst hm
  refine ⟨fun x hx ↦ ?_, fun x hx ↦ ?_⟩
  · obtain ⟨i, hi, rfl⟩ := List.mem_take_iff_getElem.mp hx
    rw [hplace i (by omega)]
    exact decide_eq_true (by omega)
  · obtain ⟨i, hi, rfl⟩ := List.mem_drop_iff_getElem.mp hx
    rw [hplace (m + i) (by omega)]
    exact decide_eq_false (by omega)

section Keys

variable {κ : Type} [LinearOrder κ] {key : α → κ} {ahead : α → α → Except Failure Bool}
variable {p : α → Prop} {x y : α} {near far : List α}

/-- How many elements of a sorted list are ahead of a given one. -/
theorem leading_ahead_yields (hd : Decides ahead key p) (hx : p x) (hfar : ∀ y ∈ far, p y)
    (hsorted : Sorted key far) (back : Bool) :
    Yields (leading back (fun y ↦ ahead y x) far) fun m ↦
      (∀ y ∈ far.take m, key y < key x) ∧ ∀ y ∈ far.drop m, key x ≤ key y := by
  have hholds : ∀ y ∈ far, ahead y x = .ok (decide (key y < key x)) := fun y hy ↦
    hd y (hfar y hy) x hx
  have hfirst : far.Pairwise fun a b ↦
      decide (key b < key x) = true → decide (key a < key x) = true := by
    refine hsorted.imp fun {a b} hab hb ↦ decide_eq_true ?_
    exact lt_of_le_of_lt hab (of_decide_eq_true hb)
  refine (leading_yields hholds hfirst back).mono fun m ⟨htake, hdrop⟩ ↦ ⟨fun y hy ↦ ?_, fun y hy ↦ ?_⟩
  · exact of_decide_eq_true (htake y hy)
  · exact le_of_not_gt (of_decide_eq_false (hdrop y hy))

/-- How many elements of a sorted list a given one is not ahead of. -/
theorem leading_behind_yields (hd : Decides ahead key p) (hy : p y) (hnear : ∀ x ∈ near, p x)
    (hsorted : Sorted key near) (back : Bool) :
    Yields (leading back (fun x ↦ (!·) <$> ahead y x) near) fun n ↦
      (∀ x ∈ near.take n, key x ≤ key y) ∧ ∀ x ∈ near.drop n, key y < key x := by
  have hholds : ∀ x ∈ near, (!·) <$> ahead y x = .ok (!decide (key y < key x)) := by
    intro x hx
    rw [hd y hy x (hnear x hx)]
    rfl
  have hfirst : near.Pairwise fun a b ↦
      (!decide (key y < key b)) = true → (!decide (key y < key a)) = true := by
    refine hsorted.imp fun {a b} hab hb ↦ ?_
    simp only [Bool.not_eq_true', decide_eq_false_iff_not, not_lt] at hb ⊢
    exact le_trans hab hb
  refine (leading_yields hholds hfirst back).mono fun n ⟨htake, hdrop⟩ ↦ ⟨fun x hx ↦ ?_, fun x hx ↦ ?_⟩
  · simpa using htake x hx
  · simpa using hdrop x hx

end Keys

/-! ## The invariant of a merge -/

section Merging

variable {κ : Type} [LinearOrder κ] {key : α → κ} {all taken merged near far : List α} {x y : α}

/-- What is merged, latest first, and what is left of two sorted runs are together all that there was
to begin with.  What is left belongs after what is merged, and the end of the near run after all of
the far one. -/
structure Merging (key : α → κ) (all merged near far : List α) : Prop where
  sortedMerged : Sorted key merged.reverse
  sortedNear : Sorted key near
  sortedFar : Sorted key far
  beforeNear : ∀ z ∈ merged, ∀ x ∈ near, key z ≤ key x
  beforeFar : ∀ z ∈ merged, ∀ y ∈ far, key z ≤ key y
  last : ∀ x ∈ near.getLast?, ∀ y ∈ far, key y ≤ key x
  perm : (merged.reverse ++ (near ++ far)).Perm all

namespace Merging

/-- A beginning of the near run can be taken if it may go before the far one. -/
theorem takeNear (taken : List α) (h : Merging key all merged (taken ++ near) far)
    (hfirst : ∀ x ∈ taken, ∀ y ∈ far, key x ≤ key y) :
    Merging key all (taken.reverse ++ merged) near far := by
  obtain ⟨htaken, hnear, hbefore⟩ := List.pairwise_append.mp h.sortedNear
  refine ⟨?_, hnear, h.sortedFar, fun z hz x hx ↦ ?_, fun z hz y hy ↦ ?_, fun x hx ↦ ?_, ?_⟩
  · rw [List.reverse_append, List.reverse_reverse]
    refine h.sortedMerged.append htaken fun z hz x hx ↦ ?_
    exact h.beforeNear z (List.mem_reverse.mp hz) x (List.mem_append_left _ hx)
  · rcases List.mem_append.mp hz with hz | hz
    · exact hbefore z (List.mem_reverse.mp hz) x hx
    · exact h.beforeNear z hz x (List.mem_append_right _ hx)
  · rcases List.mem_append.mp hz with hz | hz
    · exact hfirst z (List.mem_reverse.mp hz) y hy
    · exact h.beforeFar z hz y hy
  · refine h.last x ?_
    rw [List.getLast?_append, hx]
    rfl
  · simpa using h.perm

/-- A beginning of the far run can be taken if it may go before the near one. -/
theorem takeFar (taken : List α) (h : Merging key all merged near (taken ++ far))
    (hfirst : ∀ y ∈ taken, ∀ x ∈ near, key y ≤ key x) :
    Merging key all (taken.reverse ++ merged) near far := by
  obtain ⟨htaken, hfar, hbefore⟩ := List.pairwise_append.mp h.sortedFar
  refine ⟨?_, h.sortedNear, hfar, fun z hz x hx ↦ ?_, fun z hz y hy ↦ ?_, fun x hx y hy ↦ ?_, ?_⟩
  · rw [List.reverse_append, List.reverse_reverse]
    refine h.sortedMerged.append htaken fun z hz y hy ↦ ?_
    exact h.beforeFar z (List.mem_reverse.mp hz) y (List.mem_append_left _ hy)
  · rcases List.mem_append.mp hz with hz | hz
    · exact hfirst z (List.mem_reverse.mp hz) x hx
    · exact h.beforeNear z hz x hx
  · rcases List.mem_append.mp hz with hz | hz
    · exact hbefore z (List.mem_reverse.mp hz) y hy
    · exact h.beforeFar z hz y (List.mem_append_right _ hy)
  · exact h.last x hx y (List.mem_append_right _ hy)
  · refine List.Perm.trans ?_ h.perm
    rw [List.reverse_append, List.reverse_reverse, List.append_assoc]
    refine List.Perm.append_left _ ?_
    rw [← List.append_assoc, ← List.append_assoc]
    exact List.perm_append_comm.append_right _

/-- Once no more than one element of the near run is left, or none of the far one, the merge is
over. -/
theorem sorted (h : Merging key all merged near far) (hover : near.length ≤ 1 ∨ far = []) :
    (merged.reverse ++ far ++ near).Perm all ∧ Sorted key (merged.reverse ++ far ++ near) := by
  refine ⟨?_, ?_⟩
  · refine List.Perm.trans ?_ h.perm
    rw [List.append_assoc]
    exact List.perm_append_comm.append_left _
  · have hfar : Sorted key (merged.reverse ++ far) :=
      h.sortedMerged.append h.sortedFar fun z hz y hy ↦ h.beforeFar z (List.mem_reverse.mp hz) y hy
    refine hfar.append h.sortedNear fun z hz x hx ↦ ?_
    rcases List.mem_append.mp hz with hz | hz
    · exact h.beforeNear z (List.mem_reverse.mp hz) x hx
    · rcases hover with hshort | rfl
      · match near, hshort with
        | [x'], _ =>
          obtain rfl := List.mem_singleton.mp hx
          exact h.last x rfl z hz
      · exact absurd hz List.not_mem_nil

theorem le_near (h : Merging key all merged (x :: xs) far) : ∀ z ∈ x :: xs, key x ≤ key z :=
  List.forall_mem_cons.mpr ⟨le_rfl, (List.pairwise_cons.mp h.sortedNear).1⟩

theorem le_far (h : Merging key all merged near (y :: ys)) : ∀ z ∈ y :: ys, key y ≤ key z :=
  List.forall_mem_cons.mpr ⟨le_rfl, (List.pairwise_cons.mp h.sortedFar).1⟩

/-- The first element of the near run can be taken if it may go before that of the far one. -/
theorem stepNear (h : Merging key all merged (x :: xs) (y :: ys))
    (hxy : key x ≤ key y) : Merging key all (x :: merged) xs (y :: ys) :=
  h.takeNear [x] fun a ha b hb ↦ by
    obtain rfl := List.mem_singleton.mp ha
    exact hxy.trans (h.le_far b hb)

/-- The first element of the far run can be taken if it may go before that of the near one. -/
theorem stepFar (h : Merging key all merged (x :: xs) (y :: ys))
    (hyx : key y ≤ key x) : Merging key all (y :: merged) (x :: xs) ys :=
  h.takeFar [y] fun b hb a ha ↦ by
    obtain rfl := List.mem_singleton.mp hb
    exact hyx.trans (h.le_near a ha)

/-! What one round of galloping takes. -/

section Gallop

variable {ahead : α → α → Except Failure Bool} {p : α → Prop}

theorem near_mem (h : Merging key all merged near far) (hall : ∀ a ∈ all, p a) :
    ∀ x ∈ near, p x := fun x hx ↦
  hall x (h.perm.subset (List.mem_append_right _ (List.mem_append_left _ hx)))

theorem far_mem (h : Merging key all merged near far) (hall : ∀ a ∈ all, p a) :
    ∀ y ∈ far, p y := fun y hy ↦
  hall y (h.perm.subset (List.mem_append_right _ (List.mem_append_right _ hy)))

/-- All elements of the far run that are ahead of the near one are taken. -/
theorem gallopFar (h : Merging key all merged (x :: xs) far) (hd : Decides ahead key p)
    (hall : ∀ a ∈ all, p a) (back : Bool) :
    Yields (leading back (fun y ↦ ahead y x) far) fun m ↦
      Merging key all ((far.take m).reverse ++ merged) (x :: xs) (far.drop m) ∧
        ∀ y ∈ far.drop m, key x ≤ key y := by
  have hx := h.near_mem hall x List.mem_cons_self
  refine (leading_ahead_yields hd hx (h.far_mem hall) h.sortedFar back).mono
    fun m ⟨htake, hdrop⟩ ↦ ⟨?_, hdrop⟩
  rw [← List.take_append_drop m far] at h
  exact h.takeFar _ fun y hy z hz ↦ (htake y hy).le.trans (h.le_near z hz)

/-- All elements of the near run that the far one is not ahead of are taken. -/
theorem gallopNear (h : Merging key all merged near (y :: ys)) (hd : Decides ahead key p)
    (hall : ∀ a ∈ all, p a) (back : Bool) :
    Yields (leading back (fun x ↦ (!·) <$> ahead y x) near) fun n ↦
      Merging key all ((near.take n).reverse ++ merged) (near.drop n) (y :: ys) ∧
        ∀ x ∈ near.drop n, key y ≤ key x := by
  have hy := h.far_mem hall y List.mem_cons_self
  refine (leading_behind_yields hd hy (h.near_mem hall) h.sortedNear back).mono
    fun n ⟨htake, hdrop⟩ ↦ ⟨?_, fun x hx ↦ (hdrop x hx).le⟩
  rw [← List.take_append_drop n near] at h
  exact h.takeNear _ fun x hx z hz ↦ (htake x hx).trans (h.le_far z hz)

end Gallop

end Merging

/-! ## Merges -/

variable {ahead : α → α → Except Failure Bool} {p : α → Prop}

theorem length_drop_le {n : Nat} {rest : List α} (h : xs.drop n = rest) :
    rest.length ≤ xs.length := by
  rw [← h, List.length_drop]
  exact Nat.sub_le _ _

theorem length_le_one (h : ∀ x x' rest, xs = x :: x' :: rest → False) : xs.length ≤ 1 := by
  match xs with
  | [] => exact Nat.zero_le _
  | [_] => exact Nat.le_refl _
  | x :: x' :: rest => exact (h x x' rest rfl).elim

theorem mergeFrom_yields (hd : Decides ahead key p) (hall : ∀ x ∈ all, p x) (back : Bool)
    (pace : Pace) (patience : Nat) (h : Merging key all merged near far) :
    Yields (mergeFrom ahead back pace patience near far merged) fun r ↦
      r.1.Perm all ∧ Sorted key r.1 := by
  induction hn : near.length + far.length using Nat.strongRecOn
    generalizing pace patience near far merged with
  | ind n ih =>
    subst hn
    unfold mergeFrom
    split
    next x x' xs y ys =>
      split
      next nearWins farWins =>
        rw [hd y (h.far_mem hall y List.mem_cons_self) x (h.near_mem hall x List.mem_cons_self)]
        change Yields (if decide (key y < key x) = true then _ else _) _
        split
        next hlt =>
          have hlt : key y < key x := of_decide_eq_true hlt
          exact ih _ (by simp) _ _ (h.stepFar hlt.le) rfl
        next hge =>
          have hge : key x ≤ key y := le_of_not_gt (of_decide_eq_false (by simpa using hge))
          exact ih _ (by simp) _ _ (h.stepNear hge) rfl
      next first =>
        dsimp only
        split
        · -- from the back, the far run gallops first
          refine (h.gallopFar hd hall back).bind fun m htaken ↦ ?_
          obtain ⟨h, hdrop⟩ := htaken
          split
          next hnone =>
            rw [hnone] at h
            exact .pure (by simpa using h.sorted (.inr rfl))
          next v vs hfar =>
            rw [hfar] at h hdrop
            have hstep := h.stepNear (hdrop v List.mem_cons_self)
            split
            next hempty =>
              obtain rfl := List.isEmpty_iff.mp hempty
              exact .pure (hstep.sorted (.inl (Nat.le_refl _)))
            · refine (hstep.gallopNear hd hall back).bind fun n htaken ↦ ?_
              obtain ⟨h, hdrop⟩ := htaken
              split
              next u u' us hnear =>
                rw [hnear] at h hdrop
                have hnearLength := length_drop_le hnear
                have hfarLength := length_drop_le hfar
                have hless : (u :: u' :: us).length + vs.length <
                    (x :: x' :: xs).length + (y :: ys).length := by
                  simp only [List.length_cons] at *
                  omega
                exact ih _ hless _ _ (h.stepFar (hdrop u List.mem_cons_self)) rfl
              next hshort => exact .pure (h.sorted (.inl (length_le_one hshort)))
        · refine (h.gallopNear hd hall back).bind fun n htaken ↦ ?_
          obtain ⟨h, hdrop⟩ := htaken
          split
          next u u' us hnear =>
            rw [hnear] at h hdrop
            have hstep := h.stepFar (hdrop u List.mem_cons_self)
            refine (hstep.gallopFar hd hall back).bind fun m htaken ↦ ?_
            obtain ⟨h, hdrop⟩ := htaken
            split
            next hnone =>
              rw [hnone] at h
              exact .pure (by simpa using h.sorted (.inr rfl))
            next v vs hfar =>
              rw [hfar] at h hdrop
              have hnearLength := length_drop_le hnear
              have hfarLength := length_drop_le hfar
              have hless : (u' :: us).length + (v :: vs).length <
                  (x :: x' :: xs).length + (y :: ys).length := by
                simp only [List.length_cons] at *
                omega
              exact ih _ hless _ _ (h.stepNear (hdrop v List.mem_cons_self)) rfl
          next hshort => exact .pure (h.sorted (.inl (length_le_one hshort)))
    next hover =>
      refine .pure (h.sorted ?_)
      rcases near with _ | ⟨x, _ | ⟨x', xs⟩⟩
      · exact .inl (Nat.zero_le _)
      · exact .inl (Nat.le_refl _)
      · rcases far with _ | ⟨y, ys⟩
        · exact .inr rfl
        · exact (hover x x' xs y ys rfl rfl).elim

theorem merge_yields (hd : Decides ahead key p) (hp : ∀ x ∈ near ++ far, p x)
    (hnear : Sorted key near) (hfar : Sorted key far)
    (hfirst : ∀ y ∈ far.head?, ∀ x ∈ near, key y ≤ key x)
    (hlast : ∀ x ∈ near.getLast?, ∀ y ∈ far, key y ≤ key x) (back : Bool) (patience : Nat) :
    Yields (merge ahead back patience near far) fun r ↦
      r.1.Perm (near ++ far) ∧ Sorted key r.1 := by
  have h : Merging key (near ++ far) [] near far :=
    ⟨.nil, hnear, hfar, by simp, by simp, hlast, .refl _⟩
  unfold merge
  split
  next => exact .pure ⟨.of_eq (List.append_nil near).symm, hnear⟩
  next y ys =>
    have hnext : Merging key (near ++ y :: ys) [y] near ys :=
      h.takeFar [y] fun b hb x hx ↦ by
        obtain rfl := List.mem_singleton.mp hb
        exact hfirst b rfl x hx
    exact mergeFrom_yields hd hp back _ patience hnext

end Merging

/-! ## Neighbouring runs -/

variable {κ : Type} [LinearOrder κ] {key : α → κ} {below : α → α → Except Failure Bool}
variable {p : α → Prop} {left right near far : List α} {last : α}

theorem Sorted.reverse (h : Sorted key xs) : Sorted (OrderDual.toDual ∘ key) xs.reverse :=
  List.pairwise_reverse.mpr h

theorem Sorted.le_last (h : Sorted key xs) (hlast : xs.getLast? = some last) :
    ∀ x ∈ xs, key x ≤ key last := by
  obtain ⟨init, rfl⟩ := List.getLast?_eq_some_iff.mp hlast
  intro x hx
  rcases List.mem_append.mp hx with hx | hx
  · exact (List.pairwise_append.mp h).2.2 x hx last (List.mem_singleton.mpr rfl)
  · exact (congrArg key (List.mem_singleton.mp hx)).le

theorem Decides.turn (hd : Decides below key p) :
    Decides (fun y x ↦ below x y) (OrderDual.toDual ∘ key) p :=
  fun a ha b hb ↦ hd b hb a ha

/-- From the back, the runs are merged with the order turned round. -/
theorem mergeBack_yields (hd : Decides below key p) (hp : ∀ x ∈ near ++ far, p x)
    (hnear : Sorted key near) (hfar : Sorted key far)
    (hfirst : ∀ y ∈ far.head?, ∀ x ∈ near, key y ≤ key x)
    (hlast : ∀ x ∈ near.getLast?, ∀ y ∈ far, key y ≤ key x) (patience : Nat) :
    Yields (merge (fun y x ↦ below x y) true patience far.reverse near.reverse) fun r ↦
      r.1.reverse.Perm (near ++ far) ∧ Sorted key r.1.reverse := by
  have hp' : ∀ x ∈ far.reverse ++ near.reverse, p x := by
    rw [← List.reverse_append]
    exact fun x hx ↦ hp x (List.mem_reverse.mp hx)
  refine (merge_yields hd.turn hp' hfar.reverse hnear.reverse (fun y hy x hx ↦ ?_)
    (fun x hx y hy ↦ ?_) true patience).mono fun r ⟨hperm, hsorted⟩ ↦ ⟨?_, ?_⟩
  · rw [List.head?_reverse] at hy
    exact hlast y hy x (List.mem_reverse.mp hx)
  · rw [List.getLast?_reverse] at hx
    exact hfirst x hx y (List.mem_reverse.mp hy)
  · rw [← List.reverse_append] at hperm
    exact (List.reverse_perm _).trans (hperm.trans (List.reverse_perm _))
  · exact List.pairwise_reverse.mpr hsorted

/-- The elements at either end stay where they are when those between them are merged. -/
theorem Sorted.replace {done rest merged : List α} (hleft : Sorted key (done ++ near))
    (hright : Sorted key (far ++ rest)) (hdone : ∀ x ∈ done, ∀ y ∈ far ++ rest, key x ≤ key y)
    (hrest : ∀ x ∈ near, ∀ y ∈ rest, key x ≤ key y) (hperm : merged.Perm (near ++ far))
    (hsorted : Sorted key merged) :
    (done ++ merged ++ rest).Perm (done ++ near ++ (far ++ rest)) ∧
      Sorted key (done ++ merged ++ rest) := by
  obtain ⟨hsdone, -, hnear⟩ := List.pairwise_append.mp hleft
  obtain ⟨-, hsrest, hfar⟩ := List.pairwise_append.mp hright
  refine ⟨?_, ?_⟩
  · simpa only [List.append_assoc] using (hperm.append_left done).append_right rest
  · have hbefore : Sorted key (done ++ merged) := by
      refine Sorted.append hsdone hsorted fun x hx z hz ↦ ?_
      rcases List.mem_append.mp (hperm.subset hz) with hz | hz
      · exact hnear x hx z hz
      · exact hdone x hx z (List.mem_append_left _ hz)
    refine hbefore.append hsrest fun z hz y hy ↦ ?_
    rcases List.mem_append.mp hz with hz | hz
    · exact hdone z hz y (List.mem_append_right _ hy)
    · rcases List.mem_append.mp (hperm.subset hz) with hz | hz
      · exact hrest z hz y hy
      · exact hfar z hz y hy

theorem mergeRuns_yields (hd : Decides below key p) (hp : ∀ x ∈ left ++ right, p x)
    (hleft : Sorted key left) (hright : Sorted key right) (patience : Nat) :
    Yields (mergeRuns below patience left right) fun r ↦
      r.1.Perm (left ++ right) ∧ Sorted key r.1 := by
  obtain ⟨hpleft, hpright⟩ := List.forall_mem_append.mp hp
  unfold mergeRuns
  split
  next => exact .pure ⟨.of_eq (List.append_nil left).symm, hleft⟩
  next first tail =>
    have hfirst := hpright first List.mem_cons_self
    refine (leading_behind_yields hd hfirst hpleft hleft false).bind fun n hn ↦ ?_
    obtain ⟨htake, hdrop⟩ := hn
    generalize hr : first :: tail = right at *
    have hleast : ∀ y ∈ right, key first ≤ key y := by
      subst hr
      exact List.forall_mem_cons.mpr ⟨le_rfl, (List.pairwise_cons.mp hright).1⟩
    generalize hdone : left.take n = done at *
    generalize hnear : left.drop n = near at *
    obtain rfl : done ++ near = left := by rw [← hdone, ← hnear, List.take_append_drop]
    split
    next hnone =>
      obtain rfl := List.getLast?_eq_none_iff.mp hnone
      refine .pure ⟨.refl _, hleft.append hright fun x hx y hy ↦ ?_⟩
      rw [List.append_nil] at hx
      exact (htake x hx).trans (hleast y hy)
    next last hlast =>
      obtain ⟨hsdone, hsnear, hbefore⟩ := List.pairwise_append.mp hleft
      obtain ⟨hpdone, hpnear⟩ := List.forall_mem_append.mp hpleft
      have hplast := hpnear last (List.mem_of_getLast? hlast)
      have hprev : ∀ y ∈ right.reverse, p y := fun y hy ↦ hpright y (List.mem_reverse.mp hy)
      refine (leading_behind_yields hd.turn hplast hprev hright.reverse true).bind fun m hm ↦ ?_
      obtain ⟨hrest, hfar⟩ := hm
      rw [List.take_reverse] at hrest
      rw [List.drop_reverse] at hfar
      generalize hrestEq : right.drop (right.length - m) = rest at *
      generalize hfarEq : right.take (right.length - m) = far at *
      obtain rfl : far ++ rest = right := by rw [← hfarEq, ← hrestEq, List.take_append_drop]
      obtain ⟨hsfar, -, -⟩ := List.pairwise_append.mp hright
      have hpboth : ∀ x ∈ near ++ far, p x :=
        List.forall_mem_append.mpr ⟨hpnear, (List.forall_mem_append.mp hpright).1⟩
      have hhead : ∀ y ∈ far.head?, ∀ x ∈ near, key y ≤ key x := by
        intro y hy x hx
        obtain ⟨ys, rfl⟩ := List.head?_eq_some_iff.mp hy
        obtain rfl : first = y := (List.cons.inj hr).1
        exact (hdrop x hx).le
      have hend : ∀ x ∈ near.getLast?, ∀ y ∈ far, key y ≤ key x := by
        intro x hx y hy
        obtain rfl := Option.some.inj (hlast.symm.trans hx)
        exact le_of_lt (OrderDual.toDual_lt_toDual.mp (hfar y (List.mem_reverse.mpr hy)))
      have hwhole {merged : List α} (hperm : merged.Perm _) := Sorted.replace hleft hright
        (fun x hx y hy ↦ (htake x hx).trans (hleast y hy))
        (fun x hx y hy ↦ (Sorted.le_last hsnear hlast x hx).trans
          (OrderDual.toDual_le_toDual.mp (hrest y (List.mem_reverse.mpr hy)))) hperm
      dsimp only
      split
      · refine (merge_yields hd hpboth hsnear hsfar hhead hend false patience).bind fun r hr ↦ ?_
        exact .pure (hwhole hr.1 hr.2)
      · refine (mergeBack_yields hd hpboth hsnear hsfar hhead hend patience).bind fun r hr ↦ ?_
        exact .pure (hwhole hr.1 hr.2)

end Loadout.Sort
