import Loadout.Selection.Exhaustive
import Mathlib.Data.List.Nodup
import Mathlib.Order.Lattice

/-!
# The search as an enumeration

The exhaustive search goes through a list of choices and keeps the best one so far,
`searchFrom_eq_foldl`.  The list holds the legal extensions of what is selected, `mem_choicesFrom`,
and of two of them the one that takes the first index in which they differ comes first,
`pairwise_choicesFrom`.  None of this depends on what sums and comparisons of weights mean.  If the
order of weights is linear, then the best choice is the first of the heaviest ones,
`foldl_consider_linear`.
-/

namespace Loadout

variable {φ : Type} {conflict : Nat → Nat → Bool}

namespace Choice

variable [Add φ]

/-- Take further items, which are given with their weights. -/
def extend (c : Choice φ) (items : List (φ × Nat)) : Choice φ :=
  ⟨items.foldl (fun total item ↦ total + item.1) c.weight, c.members ++ items.map Prod.snd⟩

@[simp] theorem extend_nil (c : Choice φ) : c.extend [] = c := by
  simp [extend]

theorem extend_cons (c : Choice φ) (weight : φ) (i : Nat) (items : List (φ × Nat)) :
    c.extend ((weight, i) :: items) =
      Choice.extend ⟨c.weight + weight, c.members ++ [i]⟩ items := by
  simp [extend]

end Choice

/-- Indices that can be taken after others: none of them conflicts with an earlier one. -/
structure Legal (conflict : Nat → Nat → Bool) (taken indices : List Nat) : Prop where
  fits : ∀ i ∈ indices, ∀ j ∈ taken, conflict i j = false
  pairwise : indices.Pairwise fun j i ↦ conflict i j = false

theorem legal_nil (conflict : Nat → Nat → Bool) (taken : List Nat) : Legal conflict taken [] :=
  ⟨by simp, .nil⟩

theorem legal_cons_iff {taken indices : List Nat} {i : Nat} :
    Legal conflict taken (i :: indices) ↔
      (∀ j ∈ taken, conflict i j = false) ∧ Legal conflict (taken ++ [i]) indices := by
  constructor
  · rintro ⟨hfits, hpair⟩
    obtain ⟨hi, hpair⟩ := List.pairwise_cons.mp hpair
    refine ⟨hfits i List.mem_cons_self, fun k hk j hj ↦ ?_, hpair⟩
    rcases List.mem_append.mp hj with hj | hj
    · exact hfits k (List.mem_cons_of_mem _ hk) j hj
    · rw [List.mem_singleton.mp hj]
      exact hi k hk
  · rintro ⟨hi, hfits, hpair⟩
    refine ⟨fun k hk j hj ↦ ?_, List.pairwise_cons.mpr ⟨fun k hk ↦ ?_, hpair⟩⟩
    · rcases List.mem_cons.mp hk with rfl | hk
      · exact hi j hj
      · exact hfits k hk j (List.mem_append_left _ hj)
    · exact hfits k hk i (List.mem_append_right _ (List.mem_singleton_self i))

theorem any_eq_false_iff {taken : List Nat} {i : Nat} :
    taken.any (conflict i) = false ↔ ∀ j ∈ taken, conflict i j = false := by
  simp

/-- The choices that a search considers, in the order in which it does. -/
def choicesFrom [Add φ] (conflict : Nat → Nat → Bool) :
    List (φ × Nat) → Choice φ → List (Choice φ)
  | [], c => [c]
  | (weight, i) :: rest, c =>
    (if c.members.any (conflict i) then []
      else choicesFrom conflict rest ⟨c.weight + weight, c.members ++ [i]⟩)
      ++ choicesFrom conflict rest c

/-- The search considers the choices one after the other. -/
theorem searchFrom_eq_foldl [Add φ] [LT φ] [DecidableLT φ] (rest : List (φ × Nat)) (c : Choice φ)
    (progress : Progress φ) :
    searchFrom conflict rest c progress =
      (choicesFrom conflict rest c).foldl Progress.consider progress := by
  induction rest generalizing c progress with
  | nil => rfl
  | cons item rest ih =>
    obtain ⟨weight, i⟩ := item
    simp only [searchFrom, choicesFrom, List.foldl_append]
    split
    · rw [ih, List.foldl_nil]
    · rw [ih, ih]

/-- The choices are the legal extensions by a part of the items. -/
theorem mem_choicesFrom [Add φ] {rest : List (φ × Nat)} {c d : Choice φ} :
    d ∈ choicesFrom conflict rest c ↔
      ∃ items, items.Sublist rest ∧ Legal conflict c.members (items.map Prod.snd) ∧
        d = c.extend items := by
  induction rest generalizing c with
  | nil =>
    simp only [choicesFrom, List.mem_singleton, List.sublist_nil]
    constructor
    · rintro rfl
      exact ⟨[], rfl, legal_nil _ _, d.extend_nil.symm⟩
    · rintro ⟨items, rfl, -, rfl⟩
      exact c.extend_nil
  | cons item rest ih =>
    obtain ⟨weight, i⟩ := item
    simp only [choicesFrom, List.mem_append]
    constructor
    · rintro (hd | hd)
      · split at hd
        · simp at hd
        next hi =>
          obtain ⟨items, hsub, hlegal, rfl⟩ := ih.mp hd
          refine ⟨(weight, i) :: items, hsub.cons_cons _, ?_, (c.extend_cons weight i items).symm⟩
          exact legal_cons_iff.mpr ⟨any_eq_false_iff.mp (by simpa using hi), hlegal⟩
      · obtain ⟨items, hsub, hlegal, rfl⟩ := ih.mp hd
        exact ⟨items, hsub.cons _, hlegal, rfl⟩
    · rintro ⟨items, hsub, hlegal, rfl⟩
      rcases List.sublist_cons_iff.mp hsub with hrest | ⟨others, rfl, hrest⟩
      · exact .inr (ih.mpr ⟨items, hrest, hlegal, rfl⟩)
      · obtain ⟨hi, hothers⟩ := legal_cons_iff.mp hlegal
        rw [any_eq_false_iff.mpr hi, if_neg Bool.false_ne_true]
        exact .inl (ih.mpr ⟨others, hrest, hothers, c.extend_cons weight i others⟩)

/-- In the first index in which two lists differ, the first one has it. -/
def Precedes (a b : List Nat) : Prop :=
  ∃ i, i ∈ a ∧ i ∉ b ∧ ∀ j < i, j ∈ a ↔ j ∈ b

/-- Choices come in the order of the first index in which they differ. -/
theorem pairwise_choicesFrom [Add φ] {rest : List (φ × Nat)} {c : Choice φ}
    (hsorted : (rest.map Prod.snd).Pairwise (· < ·))
    (hbelow : ∀ j ∈ c.members, ∀ i ∈ rest.map Prod.snd, j < i) :
    (choicesFrom conflict rest c).Pairwise fun d e ↦ Precedes d.members e.members := by
  induction rest generalizing c with
  | nil => exact List.pairwise_singleton _ _
  | cons item rest ih =>
    obtain ⟨weight, i⟩ := item
    obtain ⟨hi, hsorted⟩ := List.pairwise_cons.mp hsorted
    have hc : ∀ j ∈ c.members, j < i := fun j hj ↦ hbelow j hj i List.mem_cons_self
    have hwith : ∀ j ∈ c.members ++ [i], ∀ k ∈ rest.map Prod.snd, j < k := by
      intro j hj k hk
      rcases List.mem_append.mp hj with hj | hj
      · exact hbelow j hj k (List.mem_cons_of_mem _ hk)
      · rw [List.mem_singleton.mp hj]
        exact hi k hk
    have hwithout : ∀ j ∈ c.members, ∀ k ∈ rest.map Prod.snd, j < k :=
      fun j hj k hk ↦ hbelow j hj k (List.mem_cons_of_mem _ hk)
    rw [choicesFrom]
    refine List.pairwise_append.mpr ⟨?_, ih hsorted hwithout, fun d hd e he ↦ ?_⟩
    · split
      · exact .nil
      · exact ih hsorted hwith
    · split at hd
      · simp at hd
      · obtain ⟨ds, hds, -, rfl⟩ := mem_choicesFrom.mp hd
        obtain ⟨es, hes, -, rfl⟩ := mem_choicesFrom.mp he
        have hdi : ∀ j ∈ ds.map Prod.snd, i < j := fun j hj ↦ hi j ((hds.map _).subset hj)
        have hei : ∀ j ∈ es.map Prod.snd, i < j := fun j hj ↦ hi j ((hes.map _).subset hj)
        refine ⟨i, by simp [Choice.extend], fun hmem ↦ ?_, fun j hj ↦ ?_⟩
        · rcases List.mem_append.mp hmem with hmem | hmem
          · exact Nat.lt_irrefl i (hc i hmem)
          · exact Nat.lt_irrefl i (hei i hmem)
        · have hd : j ∉ ds.map Prod.snd := fun h ↦ Nat.lt_asymm hj (hdi j h)
          have he : j ∉ es.map Prod.snd := fun h ↦ Nat.lt_asymm hj (hei j h)
          simp only [Choice.extend, List.mem_append, List.mem_singleton, hd, he,
            Nat.ne_of_lt hj, or_false]

/-! ## The best choice -/

namespace Progress

/-- The best choice is the one that was the best before, or it has been considered. -/
theorem best_foldl_consider [LT φ] [DecidableLT φ] (choices : List (Choice φ)) (p : Progress φ) :
    (choices.foldl consider p).best = p.best ∨ (choices.foldl consider p).best ∈ choices := by
  induction choices generalizing p with
  | nil => exact .inl rfl
  | cons c choices ih =>
    rw [List.foldl_cons]
    rcases ih (p.consider c) with h | h
    · rw [h, consider]
      split
      · exact .inr List.mem_cons_self
      · exact .inl rfl
    · exact .inr (List.mem_cons_of_mem _ h)

/-- Of weights in a linear order, the best choice is the first of the heaviest ones, unless none is
heavier than the one that was the best before. -/
theorem foldl_consider_linear [LinearOrder φ] (choices : List (Choice φ)) (p : Progress φ) :
    p.best.weight ≤ (choices.foldl consider p).best.weight ∧
      (∀ c ∈ choices, c.weight ≤ (choices.foldl consider p).best.weight) ∧
      ((choices.foldl consider p).best = p.best ∨
        p.best.weight < (choices.foldl consider p).best.weight ∧
          ∃ earlier later, choices = earlier ++ (choices.foldl consider p).best :: later ∧
            ∀ c ∈ earlier, c.weight < (choices.foldl consider p).best.weight) := by
  induction choices generalizing p with
  | nil => exact ⟨le_rfl, by simp, .inl rfl⟩
  | cons c choices ih =>
    rw [List.foldl_cons]
    obtain ⟨hle, hall, hfirst⟩ := ih (p.consider c)
    by_cases hc : p.best.weight < c.weight
    · have hp : (p.consider c).best = c := by rw [consider, if_pos hc]
      rw [hp] at hle hfirst
      refine ⟨le_trans (le_of_lt hc) hle, List.forall_mem_cons.mpr ⟨hle, hall⟩, .inr ?_⟩
      rcases hfirst with heq | ⟨hlt, earlier, later, heq, hearlier⟩
      · rw [heq]
        exact ⟨hc, [], choices, rfl, by simp⟩
      · refine ⟨lt_trans hc hlt, c :: earlier, later, ?_, ?_⟩
        · rw [List.cons_append, ← heq]
        · exact List.forall_mem_cons.mpr ⟨hlt, hearlier⟩
    · have hp : p.consider c = p := by rw [consider, if_neg hc]
      have hcp : c.weight ≤ p.best.weight := not_lt.mp hc
      rw [hp] at hle hall hfirst ⊢
      refine ⟨hle, List.forall_mem_cons.mpr ⟨le_trans hcp hle, hall⟩, ?_⟩
      rcases hfirst with heq | ⟨hlt, earlier, later, heq, hearlier⟩
      · exact .inl heq
      · refine .inr ⟨hlt, c :: earlier, later, ?_, ?_⟩
        · rw [List.cons_append, ← heq]
        · exact List.forall_mem_cons.mpr ⟨lt_of_le_of_lt hcp hlt, hearlier⟩

end Progress

end Loadout
