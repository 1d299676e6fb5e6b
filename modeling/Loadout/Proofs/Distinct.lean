import Mathlib.Data.List.Nodup
import Mathlib.Data.List.Pairwise

/-!
# Different values

The different values of a list are those that equal none before them.  Equality need not be an
equivalence for what is said here; if each value equals itself, they are different elements too.
-/

namespace Loadout

variable {α : Type} [BEq α]

/-- None of the values equals an earlier one. -/
def Distinct (values : List α) : Prop :=
  values.Pairwise fun a b ↦ (b == a) = false

instance (values : List α) : Decidable (Distinct values) :=
  inferInstanceAs (Decidable (values.Pairwise _))

namespace Distinct

variable {values xs : List α}

theorem sublist (h : Distinct values) (hs : xs.Sublist values) : Distinct xs :=
  List.Pairwise.sublist hs h

/-- Different values that equal themselves are different elements. -/
theorem nodup_of_self (h : Distinct values) (hself : ∀ a ∈ values, (a == a) = true) :
    values.Nodup := by
  refine List.Pairwise.imp_of_mem (fun {a b} ha _ hab heq ↦ ?_) h
  subst heq
  rw [hself a ha] at hab
  exact Bool.noConfusion hab

theorem nodup [ReflBEq α] (h : Distinct values) : values.Nodup :=
  h.nodup_of_self fun _ _ ↦ BEq.rfl

/-- Different values that are equal are the same. -/
theorem eq_of_beq [PartialEquivBEq α] (h : Distinct values) {a b : α} (ha : a ∈ values)
    (hb : b ∈ values) (heq : (b == a) = true) : a = b := by
  by_contra hne
  have : Std.Symm fun a b : α ↦ (b == a) = false := ⟨fun _ _ ↦ BEq.symm_false⟩
  have hfalse := h.forall ha hb hne
  rw [heq] at hfalse
  exact Bool.noConfusion hfalse

/-- Different values stay different in any order, and if some are left out. -/
theorem of_subset [PartialEquivBEq α] (h : Distinct values) (hxs : xs.Nodup) (hsub : xs ⊆ values) :
    Distinct xs := by
  refine List.Pairwise.imp_of_mem (fun {a b} ha hb hab ↦ ?_) hxs
  by_contra heq
  exact hab (h.eq_of_beq (hsub ha) (hsub hb) (Bool.of_not_eq_false heq))

/-- Nothing is left out of values that are different already. -/
theorem eraseDups_eq (h : Distinct values) : values.eraseDups = values := by
  induction values with
  | nil => rfl
  | cons a values ih =>
    obtain ⟨ha, hv⟩ := List.pairwise_cons.mp h
    have hfilter : values.filter (fun b ↦ !b == a) = values :=
      List.filter_eq_self.mpr fun b hb ↦ by simp [ha b hb]
    rw [List.eraseDups_cons, hfilter, ih hv]

end Distinct

/-- Induction along the way in which equal values are left out. -/
theorem eraseDups_induction {motive : List α → Prop} (nil : motive [])
    (cons : ∀ a values, motive (values.filter fun b ↦ !b == a) → motive (a :: values))
    (values : List α) : motive values := by
  match values with
  | [] => exact nil
  | a :: values => exact cons a values (eraseDups_induction nil cons _)
termination_by values.length
decreasing_by exact Nat.lt_succ_of_le (List.length_filter_le ..)

theorem eraseDups_sublist (values : List α) : values.eraseDups.Sublist values := by
  induction values using eraseDups_induction with
  | nil => exact .slnil
  | cons a values ih =>
    rw [List.eraseDups_cons]
    exact (ih.trans List.filter_sublist).cons_cons a

theorem distinct_eraseDups (values : List α) : Distinct values.eraseDups := by
  induction values using eraseDups_induction with
  | nil => exact .nil
  | cons a values ih =>
    rw [List.eraseDups_cons]
    refine List.pairwise_cons.mpr ⟨fun b hb ↦ ?_, ih⟩
    simpa using List.of_mem_filter ((eraseDups_sublist _).subset hb)

/-- One value more is one different value more, unless it is among the others. -/
theorem eraseDups_append_singleton {β : Type} [DecidableEq β] (values : List β) (b : β) :
    (values ++ [b]).eraseDups =
      if b ∈ values then values.eraseDups else values.eraseDups ++ [b] := by
  rw [List.eraseDups_append, List.removeAll]
  split
  next h => simp [h]
  next h => simp [h, List.eraseDups_cons]

/-- A value that equals no other is one of the different values, somewhere between the others. -/
theorem eraseDups_insert [PartialEquivBEq α] {before after : List α} {x : α}
    (hx : ∀ a ∈ before ++ after, (a == x) = false) :
    ∃ before' after', (before ++ after).eraseDups = before' ++ after' ∧
      (before ++ x :: after).eraseDups = before' ++ x :: after' := by
  induction before using eraseDups_induction generalizing after with
  | nil =>
    refine ⟨[], after.eraseDups, rfl, ?_⟩
    have hfilter : after.filter (fun a ↦ !a == x) = after :=
      List.filter_eq_self.mpr fun a ha ↦ by simp [hx a ha]
    rw [List.nil_append, List.eraseDups_cons, hfilter, List.nil_append]
  | cons a before ih =>
    have hxa : (x == a) = false := BEq.symm_false (hx a (by simp))
    have hrest : ∀ b ∈ before.filter (fun b ↦ !b == a) ++ after.filter (fun b ↦ !b == a),
        (b == x) = false := by
      intro b hb
      rw [← List.filter_append] at hb
      exact hx b (List.mem_cons_of_mem _ (List.mem_of_mem_filter hb))
    obtain ⟨before', after', hwithout, hwith⟩ := ih hrest
    refine ⟨a :: before', after', ?_, ?_⟩
    · rw [List.cons_append, List.eraseDups_cons, List.filter_append, hwithout, List.cons_append]
    · rw [List.cons_append, List.eraseDups_cons, List.filter_append,
        List.filter_cons_of_pos (by simp [hxa]), hwith, List.cons_append]

end Loadout
