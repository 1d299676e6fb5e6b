import Loadout.Proofs.Selection.ByComponent
import Mathlib.Algebra.Order.Group.Int

/-!
# Exactness of the selection by components

With exact weights the selection by components solves its problem, `ByComponent.find_solves`, and it
agrees with the exhaustive search for the whole problem if no value could be selected or left out
at no cost, `ByComponent.find_agrees`.

In both statements the conflicts are a relation `p` that is symmetric on the different vertices;
whether it holds of a vertex and itself does not matter.  A run fails only if there is no text for a
vertex, or the size limit cannot be compared with a size, or has no text where it is exceeded.
-/

namespace Loadout

variable {τ α ω φ : Type} {p : α → α → Bool} {values : List α}

theorem SymmetricOn.of_ne (hv : values.Nodup)
    (h : ∀ a ∈ values, ∀ b ∈ values, a ≠ b → p a b = p b a) : SymmetricOn p values :=
  List.Pairwise.imp_of_mem (fun {a b} ha hb hab ↦ h a ha b hb hab) hv

section Solves

variable [AddCommGroup φ] [LinearOrder φ] {weight : α → φ}

/-- What a selection by components promises.  A component of one or two values is never left out,
whatever its values weigh, so the selection is compared with the sets that do not leave it out
either. -/
structure Solves (p : α → α → Bool) (weight : α → φ) (values selected : List α) : Prop where
  independent : Independent p values selected
  isolated : ∀ v ∈ values, componentOf p values v = {v} → v ∈ selected
  pair : ∀ v ∈ values, ∀ w, v ≠ w → componentOf p values v = {v, w} →
    (v ∈ selected ↔ w ∉ selected)
  heaviest : ∀ T, Independent p values T →
    (∀ v ∈ values, (componentOf p values v).encard < 3 → ∃ w ∈ T, w ∈ componentOf p values v) →
    total weight T ≤ total weight selected
  heaviest_of_nonneg : (∀ v ∈ values, 0 ≤ weight v) → ∀ T, Independent p values T →
    total weight T ≤ total weight selected

theorem solves_solution [IsOrderedAddMonoid φ] (hv : values.Nodup) (hsymm : SymmetricOn p values) :
    Solves p weight values (solution p weight values) where
  independent := independent_solution weight hv hsymm
  isolated _ hmem h := mem_solution_of_isolated hv hsymm hmem h
  pair _ hmem _ hne h := mem_solution_iff_of_pair hv hsymm hmem hne h
  heaviest _ hT hmeets := total_le_total_solution_of_meets hv hsymm hT hmeets
  heaviest_of_nonneg hweight _ hT := total_le_total_solution_of_nonneg hv hsymm hweight hT

end Solves

/-! ## A sample problem -/

namespace Sample

/-- Seven vertices, one of them named twice. -/
def vertices : List Nat := [3, 0, 1, 2, 4, 3, 5, 6]

/-- Two of the vertices are in conflict with each other only, and three in a row. -/
def conflict (a b : Nat) : Bool :=
  a == b || [(1, 2), (2, 1), (3, 4), (4, 3), (4, 5), (5, 4)].contains (a, b)

/-- Weights that make it worth leaving out both vertices of the pair. -/
def weight (v : Nat) : Int :=
  [-2, -1, -1, 2, 3, 2, 1].getD v 0

/-- Weights of which several are the same. -/
def evenWeight (v : Nat) : Int :=
  [2, -1, 1, 2, 4, 2, 1].getD v 0

def labels : Labels Unit Nat Int where
  vertex v := pure (toString v)
  weight n := toString n

end Sample

/-! ## The runs -/

namespace ByComponent

variable [BEq α] [ReflBEq α] [AddCommGroup φ] [LinearOrder φ] [IsOrderedAddMonoid φ]
variable {labels : Labels τ α φ} {limit : SizeLimit} {vertices : List α}
variable {conflict : α → α → Call τ Bool} {weighing : Weighing τ α ω φ} {weight : α → φ}
variable {fails : Failure → Prop}

/-- With exact weights, the selection by components solves its problem.  Where a vertex cannot be
printed, a run may fail as printing it does. -/
theorem find_solves (htwo : 2 ≤ vertices.eraseDups.length)
    (hconflict : ∀ a ∈ vertices.eraseDups, ∀ b ∈ vertices.eraseDups,
      Call.Ends (conflict a b) (· = p a b) fails)
    (hsymm : ∀ a ∈ vertices.eraseDups, ∀ b ∈ vertices.eraseDups, a ≠ b → p a b = p b a)
    (hexact : weighing.Exact weight vertices.eraseDups)
    (hlabels : ∀ a ∈ vertices.eraseDups, Call.Ends (labels.vertex a) (fun _ ↦ True) fails)
    (hlimit : ∀ n e, limit.exceededBy n = .error e → fails e) :
    Call.Ends (find labels limit vertices conflict weighing)
      (Solves p weight vertices.eraseDups) fails := by
  have hv : vertices.eraseDups.Nodup := (distinct_eraseDups vertices).nodup
  refine (find_ends_solution hconflict hexact hlabels hlimit).mono fun S hS ↦ ?_
  rw [hS, if_neg (Nat.not_lt.mpr htwo)]
  exact solves_solution hv (.of_ne hv hsymm)

theorem find_solves_sample :
    2 ≤ Sample.vertices.eraseDups.length ∧
      Call.Ends
        (find Sample.labels (.ofInt 2) Sample.vertices (fun a b ↦ pure (Sample.conflict a b))
          (.known Sample.weight))
        (Solves Sample.conflict Sample.weight Sample.vertices.eraseDups) fun _ ↦ False :=
  ⟨by decide, find_solves (by decide) (fun _ _ _ _ ↦ .pure rfl) (by decide)
    (Weighing.exact_known _ _) (fun _ _ ↦ .pure trivial)
    SizeLimit.exceededBy_two_ne_error⟩

/-- If every vertex weighs something, and every component of one or two vertices has one of positive
weight, the selection by components and the exhaustive search answer the same set.  Where a vertex
cannot be printed, a run may fail as printing it does. -/
theorem find_agrees
    (hconflict : ∀ a ∈ vertices.eraseDups, ∀ b ∈ vertices.eraseDups,
      Call.Ends (conflict a b) (· = p a b) fails)
    (hsymm : ∀ a ∈ vertices.eraseDups, ∀ b ∈ vertices.eraseDups, a ≠ b → p a b = p b a)
    (hexact : weighing.Exact weight vertices.eraseDups)
    (hzero : ∀ v ∈ vertices.eraseDups, weight v ≠ 0)
    (hpos : ∀ v ∈ vertices.eraseDups, (componentOf p vertices.eraseDups v).encard ≤ 2 →
      ∃ w ∈ componentOf p vertices.eraseDups v, 0 < weight w)
    (hlabels : ∀ a ∈ vertices.eraseDups, Call.Ends (labels.vertex a) (fun _ ↦ True) fails)
    (hlimit : ∀ n e, limit.exceededBy n = .error e → fails e) :
    ∃ S S' : List α, S.Perm S' ∧
      Call.Ends (find labels limit vertices conflict weighing) (· = S) fails ∧
      Call.Ends (Exhaustive.find labels vertices conflict weighing) (· = S') fails := by
  have hv : vertices.eraseDups.Nodup := (distinct_eraseDups vertices).nodup
  refine ⟨_, _, ?_, find_ends_solution hconflict hexact hlabels hlimit,
    Exhaustive.find_ends_chosen hconflict (fun a ha ↦ (hexact.number a ha).of_total) hlabels⟩
  split
  · exact .refl _
  · exact solution_perm_chosen hv (.of_ne hv hsymm) hzero hpos

theorem find_agrees_sample :
    ∃ S S' : List Nat, S.Perm S' ∧
      Call.Ends
        (find Sample.labels (.ofInt 2) Sample.vertices (fun a b ↦ pure (Sample.conflict a b))
          (.known Sample.evenWeight)) (· = S) (fun _ ↦ False) ∧
      Call.Ends
        (Exhaustive.find Sample.labels Sample.vertices (fun a b ↦ pure (Sample.conflict a b))
          (.known Sample.evenWeight)) (· = S') fun _ ↦ False := by
  refine find_agrees (fun _ _ _ _ ↦ .pure rfl) (by decide) (Weighing.exact_known _ _) (by decide)
    (fun v hv _ ↦ ?_) (fun _ _ ↦ .pure trivial)
    SizeLimit.exceededBy_two_ne_error
  have hothers : ∀ v ∈ Sample.vertices.eraseDups, v ≠ 1 → 0 < Sample.evenWeight v := by decide
  by_cases hone : v = 1
  · subst hone
    exact ⟨2, .single ⟨by decide, by decide, by decide, by decide⟩, by decide⟩
  · exact ⟨v, .refl, hothers v hv hone⟩

end ByComponent

end Loadout
