import Loadout.Proofs.Selection.Exactness
import Loadout.Proofs.Selection.Repetition

/-!
# The set that the exhaustive search answers

Which set it is when the conflicts need not be symmetric: of two values only the later one is asked
about the earlier one.  If some set of values that can be taken together in this sense is heavier
than nothing, the search answers the first of the heaviest ones; else it answers the empty set.
`FirstOrNone` says this of an answer, and there is only one answer of which it is true,
`FirstOrNone.eq`.
-/

namespace Loadout

variable {τ α ω φ : Type} {p : α → α → Bool} {values S T : List α}

section Exact

variable [AddCommGroup φ] [LinearOrder φ] {weight : α → φ}

/-- The first of the heaviest legal parts of a list, if one of them is heavier than nothing, and
nothing otherwise. -/
structure FirstOrNone (p : α → α → Bool) (weight : α → φ) (values selected : List α) : Prop where
  none : (∀ T, LegalPart p values T → total weight T ≤ 0) → selected = []
  first : (∃ T, LegalPart p values T ∧ 0 < total weight T) →
    FirstHeaviest p weight values selected

theorem FirstOrNone.eq (hS : FirstOrNone p weight values S) (hT : FirstOrNone p weight values T) :
    S = T := by
  by_cases hpos : ∃ R, LegalPart p values R ∧ 0 < total weight R
  · exact (hS.first hpos).eq (hT.first hpos)
  · push Not at hpos
    rw [hS.none hpos, hT.none hpos]

/-- Whatever the signs of the weights are, what is chosen is the first of the heaviest legal parts,
or nothing if none is heavier than nothing. -/
theorem firstOrNone_chosen (hv : values.Nodup) (p : α → α → Bool) (weight : α → φ) :
    FirstOrNone p weight values (chosen p (values.map weight) values) where
  none hnone := by
    rcases chosen_eq_nil_or_total_pos p weight values with hnil | hpos
    · exact hnil
    · exact absurd hpos (not_lt.mpr (hnone _ (chosen_legalPart (List.length_map _))))
  first := by
    rintro ⟨T, hT, hpos⟩
    refine ⟨chosen_legalPart (List.length_map _), fun R hR ↦ total_le_total_chosen weight hR, ?_⟩
    intro R hR heq hne
    rcases chosen_precedesIn hv hR heq hne with hnil | hprecedes
    · have hle := total_le_total_chosen weight hT
      rw [hnil, total_nil] at hle
      exact absurd hpos (not_lt.mpr hle)
    · exact hprecedes

end Exact

/-- Conflicts of which only one of the two vertices knows, which need not be the later one. -/
def Sample.oneSided (a b : Nat) : Bool :=
  [(1, 2), (4, 3), (5, 4)].contains (a, b)

namespace Exhaustive

variable [BEq α] [AddCommGroup φ] [LinearOrder φ] {labels : Labels τ α φ} {vertices : List α}
variable {conflict : α → α → Call τ Bool} {weighing : Weighing τ α ω φ} {weight : α → φ}
variable {fails : Failure → Prop}

/-- With exact weights of any signs, the exhaustive search answers the first of the heaviest sets in
which no vertex is in conflict with an earlier one, or the empty set if no such set is heavier than
it.  Where a vertex cannot be printed, a run may fail as printing it does. -/
theorem find_first (htwo : 2 ≤ vertices.eraseDups.length)
    (hself : ∀ a ∈ vertices.eraseDups, (a == a) = true)
    (hconflict : ∀ a ∈ vertices.eraseDups, ∀ b ∈ vertices.eraseDups,
      Call.Ends (conflict a b) (· = p a b) fails)
    (hnumber : ∀ a ∈ vertices.eraseDups, Call.Ends (weighing.number a) (· = weight a) fails)
    (hlabels : ∀ a ∈ vertices.eraseDups, Call.Ends (labels.vertex a) (fun _ ↦ True) fails) :
    Call.Ends (find labels vertices conflict weighing)
      (FirstOrNone p weight vertices.eraseDups) fails := by
  have hv : vertices.eraseDups.Nodup := (distinct_eraseDups vertices).nodup_of_self hself
  refine (find_ends_chosen hconflict hnumber hlabels).mono fun S hS ↦ ?_
  rw [hS, if_neg (Nat.not_lt.mpr htwo)]
  exact firstOrNone_chosen hv p weight

theorem find_first_sample :
    2 ≤ Sample.vertices.eraseDups.length ∧ (∀ a ∈ Sample.vertices.eraseDups, (a == a) = true) ∧
      Call.Ends
        (find Sample.labels Sample.vertices (fun a b ↦ pure (Sample.oneSided a b))
          (.known Sample.evenWeight))
        (FirstOrNone Sample.oneSided Sample.evenWeight Sample.vertices.eraseDups) fun _ ↦ False :=
  ⟨by decide, by decide, @find_first _ _ _ _ _ _ _ _ _ _ _ _ _ _ (by decide) (by decide)
    (fun _ _ _ _ ↦ .pure rfl) (Weighing.exact_known _ _).number (fun _ _ ↦ .pure trivial)⟩

end Exhaustive

end Loadout
