import Loadout.Proofs.Outcome
import Loadout.Sort.Insertion
import Mathlib.Order.Lattice

/-!
# Runs are sorted

The question whether one element is below another is answered by an order of keys, `Decides`, for
some elements.  From such elements the beginning of a list is made a sorted run, `takeRun_yields`:
what is in order is found out, and the elements after it are inserted one by one.
-/

namespace Loadout.Sort

variable {α κ : Type} [LinearOrder κ] {below : α → α → Except Failure Bool} {key : α → κ}
variable {p : α → Prop} {x last : α} {xs ys run : List α} {descending : Bool}

/-- Among the elements with a property, one is below another if its key is less. -/
def Decides (below : α → α → Except Failure Bool) (key : α → κ) (p : α → Prop) : Prop :=
  ∀ a, p a → ∀ b, p b → below a b = .ok (decide (key a < key b))

/-- The elements of a list come in the order of their keys. -/
def Sorted (key : α → κ) (xs : List α) : Prop :=
  xs.Pairwise fun a b ↦ key a ≤ key b

/-- An element can follow another one in a run. -/
def Follows (key : α → κ) (descending : Bool) (a b : α) : Prop :=
  if descending then key b < key a else key a ≤ key b

theorem Follows.trans {a b c : α} (hab : Follows key descending a b)
    (hbc : Follows key descending b c) : Follows key descending a c := by
  cases descending with
  | true => exact lt_trans (show key c < key b from hbc) hab
  | false => exact le_trans (show key a ≤ key b from hab) hbc

theorem decide_eq_iff_follows {a b : α} :
    decide (key b < key a) = descending ↔ Follows key descending a b := by
  cases descending with
  | true => simp [Follows]
  | false => simp [Follows]

/-! ## Runs -/

theorem continuation_yields (hd : Decides below key p) (hlast : p last) (hxs : ∀ x ∈ xs, p x) :
    Yields (continuation below descending last xs) fun n ↦
      n ≤ xs.length ∧ (last :: xs.take n).Pairwise (Follows key descending) := by
  induction xs generalizing last with
  | nil => exact .pure ⟨Nat.le_refl _, List.pairwise_singleton _ _⟩
  | cons x xs ih =>
    obtain ⟨hx, hxs⟩ := List.forall_mem_cons.mp hxs
    rw [continuation, hd x hx last hlast]
    change Yields (if decide (key x < key last) = descending then _ else _) _
    split
    next hfollows =>
      rw [decide_eq_iff_follows] at hfollows
      refine (ih hx hxs).bind fun n ⟨hn, hrun⟩ ↦ .pure ⟨Nat.succ_le_succ hn, ?_⟩
      refine List.pairwise_cons.mpr ⟨fun y hy ↦ ?_, hrun⟩
      rcases List.mem_cons.mp hy with rfl | hy
      · exact hfollows
      · exact hfollows.trans ((List.pairwise_cons.mp hrun).1 y hy)
    next => exact .pure ⟨Nat.zero_le _, List.pairwise_singleton _ _⟩

theorem firstRun_yields (hd : Decides below key p) (hxs : ∀ x ∈ xs, p x) :
    Yields (firstRun below xs) fun r ↦
      r.1 ≤ xs.length ∧ (xs ≠ [] → 0 < r.1) ∧ (xs.take r.1).Pairwise (Follows key r.2) := by
  match xs, hxs with
  | [], _ => exact .pure ⟨Nat.le_refl _, by simp, .nil⟩
  | [x], _ => exact .pure ⟨Nat.le_refl _, by simp, List.pairwise_singleton _ _⟩
  | x :: y :: ys, hxs =>
    obtain ⟨hx, hxs⟩ := List.forall_mem_cons.mp hxs
    obtain ⟨hy, hys⟩ := List.forall_mem_cons.mp hxs
    rw [firstRun, hd y hy x hx]
    refine (continuation_yields hd hy hys).bind fun n ⟨hn, hrun⟩ ↦ .pure ⟨?_, by simp, ?_⟩
    · exact Nat.add_le_add_right hn 2
    · refine List.pairwise_cons.mpr ⟨fun z hz ↦ ?_, hrun⟩
      have hfollows : Follows key (decide (key y < key x)) x y := decide_eq_iff_follows.mp rfl
      rcases List.mem_cons.mp hz with rfl | hz
      · exact hfollows
      · exact hfollows.trans ((List.pairwise_cons.mp hrun).1 z hz)

/-- A descending run that is turned round is sorted. -/
theorem sorted_of_follows (h : xs.Pairwise (Follows key descending)) :
    Sorted key (if descending then xs.reverse else xs) := by
  cases descending with
  | true => exact List.pairwise_reverse.mpr (h.imp fun hab ↦ le_of_lt hab)
  | false => exact h

/-! ## Insertion -/

theorem Sorted.append {low high : List α} (hlow : Sorted key low) (hhigh : Sorted key high)
    (h : ∀ a ∈ low, ∀ b ∈ high, key a ≤ key b) : Sorted key (low ++ high) :=
  List.pairwise_append.mpr ⟨hlow, hhigh, h⟩

theorem insertByHalving_yields (hd : Decides below key p) (hx : p x) (hxs : ∀ y ∈ xs, p y)
    (hsorted : Sorted key xs) :
    Yields (insertByHalving below x xs) fun ys ↦ ys.Perm (x :: xs) ∧ Sorted key ys := by
  induction hn : xs.length using Nat.strongRecOn generalizing xs with
  | ind n ih =>
    subst hn
    unfold insertByHalving
    split
    next hdrop =>
      have hnil : xs = [] := by
        have hlength := congrArg List.length hdrop
        rw [List.length_drop, List.length_nil] at hlength
        exact List.length_eq_zero_iff.mp (by omega)
      subst hnil
      exact .pure ⟨.refl _, List.pairwise_singleton _ _⟩
    next middle high hdrop =>
      have hsplit : xs.take (xs.length / 2) ++ middle :: high = xs := by
        rw [← hdrop, List.take_append_drop]
      generalize hlow : xs.take (xs.length / 2) = low at hsplit ⊢
      subst hsplit
      obtain ⟨hplow, hphigh⟩ := List.forall_mem_append.mp hxs
      obtain ⟨hmiddle, hphigh⟩ := List.forall_mem_cons.mp hphigh
      obtain ⟨hslow, hshigh, hbefore⟩ := List.pairwise_append.mp hsorted
      obtain ⟨hleast, hshigh⟩ := List.pairwise_cons.mp hshigh
      rw [hd x hx middle hmiddle]
      change Yields (if decide (key x < key middle) = true then _ else _) _
      split
      next hlt =>
        have hlt : key x < key middle := of_decide_eq_true hlt
        refine (ih low.length (by simp) hplow hslow rfl).bind fun ys hrest ↦ ?_
        obtain ⟨hperm, hys⟩ := hrest
        refine .pure ⟨?_, ?_⟩
        · exact hperm.append_right _
        · refine Sorted.append hys (List.pairwise_append.mp hsorted).2.1 fun a ha b hb ↦ ?_
          have hab : key x ≤ key b := by
            rcases List.mem_cons.mp hb with rfl | hb
            · exact hlt.le
            · exact hlt.le.trans (hleast b hb)
          rcases List.mem_cons.mp (hperm.subset ha) with rfl | ha
          · exact hab
          · exact hbefore a ha b hb
      next hge =>
        have hge : key middle ≤ key x := le_of_not_gt (of_decide_eq_false (by simpa using hge))
        have hhigh : high.length < (low ++ middle :: high).length := by
          rw [List.length_append, List.length_cons]
          omega
        refine (ih high.length hhigh hphigh hshigh rfl).bind fun ys hrest ↦ ?_
        obtain ⟨hperm, hys⟩ := hrest
        refine .pure ⟨?_, ?_⟩
        · refine ((hperm.cons middle).append_left low).trans ?_
          exact ((List.Perm.swap x middle high).append_left low).trans List.perm_middle
        · refine Sorted.append hslow (List.pairwise_cons.mpr ⟨fun b hb ↦ ?_, hys⟩) fun a ha b hb ↦ ?_
          · rcases List.mem_cons.mp (hperm.subset hb) with rfl | hb
            · exact hge
            · exact hleast b hb
          · rcases List.mem_cons.mp hb with rfl | hb
            · exact hbefore a ha b List.mem_cons_self
            · rcases List.mem_cons.mp (hperm.subset hb) with rfl | hb
              · exact (hbefore a ha middle List.mem_cons_self).trans hge
              · exact hbefore a ha b (List.mem_cons_of_mem _ hb)

/-- Elements are inserted into a run one by one. -/
theorem foldlM_insertByHalving_yields (hd : Decides below key p) (hxs : ∀ x ∈ xs, p x)
    (hrun : ∀ x ∈ run, p x) (hsorted : Sorted key run) :
    Yields (xs.foldlM (fun sorted x ↦ insertByHalving below x sorted) run) fun ys ↦
      ys.Perm (run ++ xs) ∧ Sorted key ys := by
  induction xs generalizing run with
  | nil => exact .pure ⟨.of_eq (List.append_nil run).symm, hsorted⟩
  | cons x xs ih =>
    obtain ⟨hx, hxs⟩ := List.forall_mem_cons.mp hxs
    rw [List.foldlM_cons]
    refine (insertByHalving_yields hd hx hrun hsorted).bind fun ys ⟨hperm, hys⟩ ↦ ?_
    have hp : ∀ y ∈ ys, p y := fun y hy ↦
      List.forall_mem_cons.mpr ⟨hx, hrun⟩ y (hperm.subset hy)
    refine (ih hxs hp hys).mono fun zs ⟨hzs, hsorted⟩ ↦ ⟨?_, hsorted⟩
    exact hzs.trans ((hperm.append_right xs).trans List.perm_middle.symm)

/-- The run that is taken from the beginning of a list has the elements of that beginning. -/
theorem takeRun_yields (hd : Decides below key p) (hxs : ∀ x ∈ xs, p x) (hne : xs ≠ [])
    (least : Nat) :
    Yields (takeRun below least xs) fun run ↦
      0 < run.length ∧ run.Perm (xs.take run.length) ∧ Sorted key run := by
  refine (firstRun_yields hd hxs).bind fun ⟨n, descending⟩ ⟨hn, hpos, hfollows⟩ ↦ ?_
  have hturned : (if descending then (xs.take n).reverse else xs.take n).Perm (xs.take n) := by
    cases descending with
    | true => exact List.reverse_perm _
    | false => exact .refl _
  have hp : ∀ y ∈ xs.take n, p y := fun y hy ↦ hxs y (List.mem_of_mem_take hy)
  have hrest : ∀ y ∈ (xs.drop n).take (least - n), p y := fun y hy ↦
    hxs y (List.mem_of_mem_drop (List.mem_of_mem_take hy))
  have hfold := foldlM_insertByHalving_yields hd hrest
    (fun y hy ↦ hp y (hturned.subset hy)) (sorted_of_follows hfollows)
  refine hfold.mono fun ys ⟨hperm, hys⟩ ↦ ?_
  have htaken := hperm.trans (hturned.append_right _)
  have hlength := htaken.length_eq
  simp only [List.length_append, List.length_take, List.length_drop] at hlength
  refine ⟨by have := hpos hne; omega, ?_, hys⟩
  refine htaken.trans (.of_eq ?_)
  rw [← List.take_add, List.take_eq_take_iff]
  omega

end Loadout.Sort
