import Loadout.Proofs.Sort.Merge
import Loadout.Sort.Runs
import Mathlib.Data.List.Nodup

/-!
# Sorting sorts

Sorting a list answers its elements in the order of their keys, `sort_yields`.  The runs that wait to
be merged are sorted, and have the elements of the list up to some place, `Waiting`; which of them are
merged first makes no difference to this.  If the keys are different, there is only one answer for
all orders of the elements, `Sorted.eq_of_perm`.
-/

namespace Loadout.Sort

variable {α κ : Type} [LinearOrder κ] {key : α → κ} {below : α → α → Except Failure Bool}
variable {p : α → Prop} {all done xs ys : List α} {waiting : List (Run α)}

/-- Runs that are sorted, and have the given elements. -/
structure Waiting (key : α → κ) (all : List α) (waiting : List (Run α)) : Prop where
  sorted : ∀ run ∈ waiting, Sorted key run.items
  perm : (waiting.flatMap Run.items).Perm all

theorem Waiting.mem (h : Waiting key all waiting) (hall : ∀ x ∈ all, p x) :
    ∀ run ∈ waiting, ∀ x ∈ run.items, p x := fun run hrun x hx ↦
  hall x (h.perm.subset (List.mem_flatMap.mpr ⟨run, hrun, hx⟩))

/-- Neighbouring runs are replaced by the run that they are merged into. -/
theorem Waiting.merge {before after : List (Run α)} {left right run : Run α}
    (h : Waiting key all (before ++ right :: left :: after)) (hsorted : Sorted key run.items)
    (hperm : run.items.Perm (left.items ++ right.items)) :
    Waiting key all (before ++ run :: after) where
  sorted r hr := by
    rcases List.mem_append.mp hr with hr | hr
    · exact h.sorted r (List.mem_append_left _ hr)
    · rcases List.mem_cons.mp hr with rfl | hr
      · exact hsorted
      · refine h.sorted r (List.mem_append_right _ ?_)
        exact List.mem_cons_of_mem _ (List.mem_cons_of_mem _ hr)
  perm := by
    refine List.Perm.trans ?_ h.perm
    simp only [List.flatMap_append, List.flatMap_cons]
    refine List.Perm.append_left _ ?_
    rw [← List.append_assoc]
    exact (hperm.trans List.perm_append_comm).append_right _

/-- Two neighbouring runs among those that wait can be merged. -/
theorem Waiting.mergeRuns_yields (before : List (Run α)) {after : List (Run α)}
    {left right : Run α} (h : Waiting key all (before ++ right :: left :: after))
    (hd : Decides below key p) (hall : ∀ x ∈ all, p x) (patience : Nat) :
    Yields (mergeRuns below patience left.items right.items) fun r ↦
      ∀ run : Run α, run.items = r.1 → Waiting key all (before ++ run :: after) := by
  have hright : right ∈ before ++ right :: left :: after := by simp
  have hleft : left ∈ before ++ right :: left :: after := by simp
  have hp : ∀ x ∈ left.items ++ right.items, p x :=
    List.forall_mem_append.mpr ⟨h.mem hall left hleft, h.mem hall right hright⟩
  refine (Sort.mergeRuns_yields hd hp (h.sorted left hleft) (h.sorted right hright) patience).mono
    fun r ⟨hperm, hsorted⟩ run hrun ↦ ?_
  exact h.merge (hrun ▸ hsorted) (hrun ▸ hperm)

theorem settle_yields (hd : Decides below key p) (hall : ∀ x ∈ all, p x) (power patience : Nat)
    (h : Waiting key all waiting) :
    Yields (settle below power waiting patience) fun r ↦ Waiting key all r.1 := by
  induction hn : waiting.length using Nat.strongRecOn generalizing waiting patience with
  | ind n ih =>
    subst hn
    unfold settle
    split
    next top next rest =>
      split
      · refine (h.mergeRuns_yields [] hd hall patience).bind fun r hmerged ↦ ?_
        exact ih _ (by simp) _ (hmerged { next with items := r.1 } rfl) rfl
      · exact .pure h
    next => exact .pure h

theorem push_yields (hd : Decides below key p) (hall : ∀ x ∈ all, p x) {items : List α}
    (hitems : Sorted key items) (length patience : Nat) (h : Waiting key all waiting) :
    Yields (push below length items waiting patience) fun r ↦ Waiting key (items ++ all) r.1 := by
  have hadd {run : Run α} {waiting : List (Run α)} (hrun : run.items = items)
      (h : Waiting key all waiting) : Waiting key (items ++ all) (run :: waiting) :=
    ⟨List.forall_mem_cons.mpr ⟨hrun ▸ hitems, h.sorted⟩, by
      rw [List.flatMap_cons, hrun]
      exact h.perm.append_left items⟩
  unfold push
  split
  next => exact .pure (hadd rfl h)
  next top rest =>
    refine (settle_yields hd hall _ patience h).bind fun r hr ↦ ?_
    split
    next => exact .pure (hadd rfl hr)
    next top rest patience =>
      refine .pure (hadd rfl ⟨?_, hr.perm⟩)
      exact List.forall_mem_cons.mpr (List.forall_mem_cons.mp hr.sorted)

theorem collapse_yields (hd : Decides below key p) (hall : ∀ x ∈ all, p x) (patience : Nat)
    (h : Waiting key all waiting) :
    Yields (collapse below waiting patience) fun ys ↦ ys.Perm all ∧ Sorted key ys := by
  induction hn : waiting.length using Nat.strongRecOn generalizing waiting patience with
  | ind n ih =>
    subst hn
    have hone {run : Run α} (h : Waiting key all [run]) :
        run.items.Perm all ∧ Sorted key run.items :=
      ⟨by simpa using h.perm, h.sorted run List.mem_cons_self⟩
    unfold collapse
    split
    next => exact .pure ⟨h.perm, .nil⟩
    next run _ => exact .pure (hone h)
    next top next _ =>
      refine (h.mergeRuns_yields [] hd hall patience).bind fun r hmerged ↦ ?_
      exact .pure (hone (hmerged { next with items := r.1 } rfl))
    next top next third rest =>
      split
      · refine (h.mergeRuns_yields [top] hd hall patience).bind fun r hmerged ↦ ?_
        exact ih _ (by simp) _ (hmerged { third with items := r.1 } rfl) rfl
      · refine (h.mergeRuns_yields [] hd hall patience).bind fun r hmerged ↦ ?_
        exact ih _ (by simp) _ (hmerged { next with items := r.1 } rfl) rfl

theorem sortFrom_yields (hd : Decides below key p) (hxs : ∀ x ∈ xs, p x) (hdone : ∀ x ∈ done, p x)
    (length patience : Nat) (h : Waiting key done waiting) :
    Yields (sortFrom below length xs waiting patience) fun ys ↦
      ys.Perm (done ++ xs) ∧ Sorted key ys := by
  induction hn : xs.length using Nat.strongRecOn generalizing xs done waiting patience with
  | ind n ih =>
    subst hn
    unfold sortFrom
    split
    next => exact (List.append_nil done).symm ▸ collapse_yields hd hdone patience h
    next x xs =>
      refine (takeRun_yields hd hxs (List.cons_ne_nil x xs) _).bind fun run htaken ↦ ?_
      obtain ⟨hpos, hrun, hsorted⟩ := htaken
      refine (push_yields hd hdone hsorted length patience h).bind fun r hr ↦ ?_
      have hdrop : xs.drop (run.length - 1) = (x :: xs).drop run.length := by
        obtain ⟨k, hk⟩ := Nat.exists_eq_succ_of_ne_zero (Nat.ne_of_gt hpos)
        rw [hk]
        rfl
      have hprun : ∀ y ∈ run, p y := fun y hy ↦ hxs y (List.mem_of_mem_take (hrun.subset hy))
      have hrest : ∀ y ∈ xs.drop (run.length - 1), p y := fun y hy ↦
        hxs y (List.mem_of_mem_drop (hdrop ▸ hy))
      have hless : (xs.drop (run.length - 1)).length < (x :: xs).length := by
        rw [List.length_drop, List.length_cons]
        omega
      refine (ih _ hless hrest (List.forall_mem_append.mpr ⟨hprun, hdone⟩) _ hr rfl).mono
        fun ys hys ↦ ⟨hys.1.trans ?_, hys.2⟩
      rw [hdrop]
      refine (List.perm_append_comm.append_right _).trans ?_
      rw [List.append_assoc]
      refine List.Perm.append_left done ?_
      refine (hrun.append_right _).trans (.of_eq (List.take_append_drop _ _))

/-- Sorting answers the elements of a list in the order of their keys. -/
theorem sort_yields (hd : Decides below key (· ∈ xs)) :
    Yields (sort below xs) fun ys ↦ ys.Perm xs ∧ Sorted key ys := by
  have hnone : ∀ x ∈ ([] : List α), x ∈ xs := by simp
  have hwaiting : Waiting key ([] : List α) [] := ⟨by simp, .refl _⟩
  exact sortFrom_yields hd (fun _ hx ↦ hx) hnone xs.length leastGallop hwaiting

/-- If their keys are different, elements can be sorted in one way only. -/
theorem Sorted.eq_of_perm (hxs : Sorted key xs) (hys : Sorted key ys) (hperm : xs.Perm ys)
    (hkeys : (xs.map key).Nodup) : xs = ys := by
  refine hperm.eq_of_pairwise (fun a b ha hb hab hba ↦ ?_) hxs hys
  exact List.inj_on_of_nodup_map hkeys ha (hperm.symm.subset hb) (le_antisymm hab hba)

end Loadout.Sort
