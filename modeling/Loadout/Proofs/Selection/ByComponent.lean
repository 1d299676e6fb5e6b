import Loadout.Proofs.Selection.SizeLimit
import Loadout.Proofs.Selection.Solution
import Loadout.Selection.ByComponent

/-!
# What the selection by components finds

A run of the selection by components unites what it selects from the components of the conflicts,
`ByComponent.find_ends`.  If it is always told the same about a vertex, it answers `united`,
`find_ends_united`, which is the solution if weights are exact, `find_ends_solution`; with whatever
weights it answers an independent set, `find_ends_independent`.

What is asked about a vertex on the way, its weight as a number and its comparison with another one,
is all that these statements assume of a weighing.
-/

namespace Loadout

variable {τ α ω φ : Type}

namespace Weighing

/-- Whether the first of two vertices weighs at least as much as the second. -/
def compare (w : Weighing τ α ω φ) (a b : α) : Call τ Bool := do
  let first ← w.weigh a
  let second ← w.weigh b
  .ofExcept (w.atLeast first second)

/-- A weighing that knows what some vertices weigh. -/
structure Exact [LE φ] [DecidableLE φ] (w : Weighing τ α ω φ) (weight : α → φ)
    (values : List α) : Prop where
  number : ∀ a ∈ values, Call.Ends (w.number a) (· = weight a) fun _ ↦ False
  compare : ∀ a ∈ values, ∀ b ∈ values,
    Call.Ends (w.compare a b) (· = decide (weight b ≤ weight a)) fun _ ↦ False

theorem exact_known [LE φ] [DecidableLE φ] (weight : α → φ) (values : List α) :
    (known weight : Weighing τ α φ φ).Exact weight values where
  number _ _ := .pure rfl
  compare _ _ _ _ := .pure rfl

end Weighing

theorem Run.ask_bind {β : Type} (x : Call τ α) (k : α → Call τ β) :
    Run.ask (x >>= k) = Run.ask x >>= fun a ↦ Run.ask (k a) :=
  Call.zoom_bind (fun _ _ ↦ rfl) x k

namespace ByComponent

section Run

variable [BEq α] [Zero φ] [Add φ] [LT φ] [DecidableLT φ] {labels : Labels τ α φ} {limit : SizeLimit}
variable {conflict : α → α → Call τ Bool} {weighing : Weighing τ α ω φ} {p : α → α → Bool}
variable {vertices values c : List α} {fails : Failure → Prop}
variable {worth : α → φ → Prop} {wins : α → α → Bool → Prop}

theorem select_pair (number : Nat) (v w : α) :
    select labels limit conflict weighing number [v, w] = (do
      Run.write (.component number 2 .pair)
      let first ← Run.ask (weighing.compare v w)
      return [if first then v else w]) := by
  simp only [select, Weighing.compare, Run.ask_bind, bind_assoc]
  rfl

/-- What the exhaustive search selects from different values. -/
theorem search_ends (hdistinct : Distinct c)
    (hconflict : ∀ a ∈ c, ∀ b ∈ c, Call.Ends (conflict a b) (· = p a b) fails)
    (hnumber : ∀ a ∈ c, Call.Ends (weighing.number a) (worth a) fails)
    (hlabels : ∀ a ∈ c, Call.Ends (labels.vertex a) (fun _ ↦ True) fails) (hsize : 2 ≤ c.length) :
    Call.Ends (Exhaustive.find labels c conflict weighing)
      (fun S ↦ ∃ weights, List.Forall₂ worth c weights ∧ S = chosen p weights c) fails := by
  have hvalues := hdistinct.eraseDups_eq
  rw [← hvalues] at hconflict hnumber hlabels
  refine (Exhaustive.find_ends hconflict (Call.Ends.mapM hnumber) hlabels).mono fun S hS ↦ ?_
  rwa [hvalues, if_neg (Nat.not_lt.mpr hsize)] at hS

/-- What is selected from a component, by one of the strategies: a single value as it is, of two
values the one that wins, and otherwise what the exhaustive search chooses with the weights that it
is told. -/
theorem select_ends {made : List α → Prop} (number : Nat) (hsub : c.Sublist values)
    (hdistinct : Distinct values)
    (hconflict : ∀ a ∈ values, ∀ b ∈ values, Call.Ends (conflict a b) (· = p a b) fails)
    (hnumber : ∀ a ∈ values, Call.Ends (weighing.number a) (worth a) fails)
    (hcompare : ∀ a ∈ values, ∀ b ∈ values, Call.Ends (weighing.compare a b) (wins a b) fails)
    (hlabels : ∀ a ∈ values, Call.Ends (labels.vertex a) (fun _ ↦ True) fails)
    (hlimit : ∀ n e, limit.exceededBy n = .error e → fails e)
    (hempty : c = [] → made []) (hone : ∀ v, c = [v] → made [v])
    (hpair : ∀ v w first, c = [v, w] → wins v w first → made [if first then v else w])
    (hmany : 3 ≤ c.length → ∀ weights, List.Forall₂ worth c weights → made (chosen p weights c)) :
    Call.Ends (select labels limit conflict weighing number c) made fails := by
  match c with
  | [] => exact .pure (hempty rfl)
  | [v] => exact (Run.ends_write _).bind fun _ _ ↦ .pure (hone v rfl)
  | [v, w] =>
    rw [select_pair]
    refine (Run.ends_write _).bind fun _ _ ↦ ?_
    have hvw := hcompare v (hsub.subset (by simp)) w (hsub.subset (by simp))
    refine (Run.ends_ask hvw).bind fun first hfirst ↦ ?_
    exact .pure (hpair v w first rfl hfirst)
  | u :: v :: w :: rest =>
    have hsearch : Call.Ends (Exhaustive.find labels (u :: v :: w :: rest) conflict weighing) made
        fails := by
      refine (search_ends (hdistinct.sublist hsub)
        (fun a ha b hb ↦ hconflict a (hsub.subset ha) b (hsub.subset hb))
        (fun a ha ↦ hnumber a (hsub.subset ha)) (fun a ha ↦ hlabels a (hsub.subset ha))
        (by simp)).mono fun S hS ↦ ?_
      obtain ⟨weights, hweights, rfl⟩ := hS
      exact hmany (by simp) weights hweights
    simp only [select]
    refine Call.Ends.bind (Run.ends_ofExcept (fun _ _ ↦ trivial) (hlimit _)) fun large _ ↦ ?_
    split
    · refine (Run.ends_write _).bind fun _ _ ↦ ?_
      exact (Run.ends_write _).bind fun _ _ ↦ hsearch
    · exact (Run.ends_write _).bind fun _ _ ↦ hsearch

/-- A selection is made from every component. -/
theorem selections_ends {components : List (List α)} {made : List α → List α → Prop}
    (hselect : ∀ c ∈ components, ∀ number,
      Call.Ends (select labels limit conflict weighing number c) (made c) fails) :
    Call.Ends
      (components.zipIdx.mapM fun item ↦ select labels limit conflict weighing item.2 item.1)
      (List.Forall₂ made components) fails := by
  have hitem : ∀ item ∈ components.zipIdx,
      Call.Ends (select labels limit conflict weighing item.2 item.1) (made item.1) fails := by
    intro item hitem
    have hc : item.1 ∈ components := (List.mem_zipIdx' hitem).2 ▸ List.getElem_mem _
    exact hselect item.1 hc item.2
  have hmap := Call.Ends.mapM hitem
  refine hmap.mono fun parts hparts ↦ ?_
  rw [← List.zipIdx_map_fst 0 components]
  exact List.forall₂_map_left_iff.mpr hparts

/-- The selections from the components of a graph are united. -/
theorem findInGraph_ends {g : Graph τ α} {made : List α → List α → Prop} (hsize : 2 ≤ values.length)
    (hvertices : g.vertices = values) (htable : g.table = tableOf p values)
    (hlabels : ∀ a ∈ values, Call.Ends (labels.vertex a) (fun _ ↦ True) fails)
    (hmade : ∀ c S, made c S → S.Sublist c)
    (hselect : ∀ c ∈ componentsOf p values, ∀ number,
      Call.Ends (select labels limit g.adjacent weighing number c) (made c) fails) :
    Call.Ends (findInGraph labels limit g weighing)
      (fun S ↦ ∃ parts, List.Forall₂ made (componentsOf p values) parts ∧ S = parts.flatten)
      fails := by
  have hlarge : ¬ g.size < 2 := by
    rw [Graph.size, hvertices]
    exact Nat.not_lt.mpr hsize
  simp only [findInGraph, hlarge, if_false]
  refine (Run.ends_write _).bind fun _ _ ↦ ?_
  refine (Run.ends_journalled ?_).bind fun _ _ ↦ ?_
  · rw [hvertices]
    exact (Run.ends_ask (Call.Ends.mapM hlabels)).bind fun _ _ ↦ Run.ends_write _
  rw [Graph.components_eq hvertices htable]
  refine (selections_ends hselect).bind fun parts hparts ↦ ?_
  have hsubset : parts.flatten ⊆ values := fun a ha ↦
    (flatten_componentsOf p values).subset (flatten_subset_flatten (hparts.imp hmade) ha)
  refine (Run.ends_ask (Labels.ends_selection fun a ha ↦ hlabels a (hsubset ha))).bind
    fun _ _ ↦ ?_
  refine (Run.ends_write _).bind fun _ _ ↦ ?_
  exact (Run.ends_write _).bind fun _ _ ↦ .pure ⟨parts, hparts, rfl⟩

/-- The selections from the components of the different values of a list are united.  A single value
is answered as it is. -/
theorem find_ends {made : List α → List α → Prop}
    (hconflict : ∀ a ∈ vertices.eraseDups, ∀ b ∈ vertices.eraseDups,
      Call.Ends (conflict a b) (· = p a b) fails)
    (hlabels : ∀ a ∈ vertices.eraseDups, Call.Ends (labels.vertex a) (fun _ ↦ True) fails)
    (hmade : ∀ c S, made c S → S.Sublist c)
    (hselect : ∀ c ∈ componentsOf p vertices.eraseDups, ∀ number,
      Call.Ends (select labels limit conflict weighing number c) (made c) fails) :
    Call.Ends (find labels limit vertices conflict weighing)
      (fun S ↦ if vertices.eraseDups.length < 2 then S = vertices.eraseDups
        else ∃ parts, List.Forall₂ made (componentsOf p vertices.eraseDups) parts ∧
          S = parts.flatten) fails := by
  have hvalues := (distinct_eraseDups vertices).eraseDups_eq
  by_cases hsize : vertices.eraseDups.length < 2
  · simp only [find, hsize, if_true]
    exact .pure rfl
  · simp only [find, hsize, if_false]
    rw [← hvalues] at hconflict
    refine (Run.ends_ask (Graph.build_ends hconflict)).bind fun g hg ↦ ?_
    obtain ⟨hadjacent, hvertices, htable, -⟩ := hg
    rw [hvalues] at hvertices htable
    subst hadjacent
    exact findInGraph_ends (Nat.not_lt.mp hsize) hvertices htable hlabels hmade hselect

/-- Whatever is known about weights, the selection is an independent set. -/
theorem find_ends_independent [ReflBEq α]
    (hconflict : ∀ a ∈ vertices.eraseDups, ∀ b ∈ vertices.eraseDups,
      Call.Ends (conflict a b) (· = p a b) fails)
    (hsymm : SymmetricOn p vertices.eraseDups)
    (hnumber : ∀ a ∈ vertices.eraseDups, Call.Ends (weighing.number a) (fun _ ↦ True) fails)
    (hcompare : ∀ a ∈ vertices.eraseDups, ∀ b ∈ vertices.eraseDups,
      Call.Ends (weighing.compare a b) (fun _ ↦ True) fails)
    (hlabels : ∀ a ∈ vertices.eraseDups, Call.Ends (labels.vertex a) (fun _ ↦ True) fails)
    (hlimit : ∀ n e, limit.exceededBy n = .error e → fails e) :
    Call.Ends (find labels limit vertices conflict weighing)
      (Independent p vertices.eraseDups) fails := by
  have hselect : ∀ c ∈ componentsOf p vertices.eraseDups, ∀ number,
      Call.Ends (select labels limit conflict weighing number c) (LegalPart p c) fails := by
    intro c hc number
    refine select_ends number (sublist_of_mem_componentsOf hc) (distinct_eraseDups vertices)
      hconflict hnumber hcompare hlabels hlimit ?_ ?_ ?_ ?_
    · rintro rfl
      exact legalPart_nil p []
    · rintro v rfl
      exact legalPart_singleton List.mem_cons_self
    · rintro v w first rfl -
      refine legalPart_singleton ?_
      split <;> simp
    · intro _ weights hweights
      exact chosen_legalPart hweights.length_eq.symm
  refine (find_ends hconflict hlabels (fun _ _ h ↦ h.sublist) hselect).mono fun S hS ↦ ?_
  split at hS
  next hsize =>
    rw [hS]
    exact independent_of_length_lt_two p hsize
  · obtain ⟨parts, hparts, rfl⟩ := hS
    exact hsymm.independent_flatten (distinct_eraseDups vertices).nodup hparts

/-- If there are no conflicts, everything is selected. -/
theorem find_ends_of_unrelated [ReflBEq α]
    (hconflict : ∀ a ∈ vertices.eraseDups, ∀ b ∈ vertices.eraseDups,
      Call.Ends (conflict a b) (· = p a b) fails)
    (hapart : ∀ a ∈ vertices.eraseDups, ∀ b ∈ vertices.eraseDups, a ≠ b → p a b = false)
    (hlabels : ∀ a ∈ vertices.eraseDups, Call.Ends (labels.vertex a) (fun _ ↦ True) fails) :
    Call.Ends (find labels limit vertices conflict weighing) (· = vertices.eraseDups) fails := by
  have hcomponents := componentsOf_of_unrelated (distinct_eraseDups vertices).nodup hapart
  have hselect : ∀ c ∈ componentsOf p vertices.eraseDups, ∀ number,
      Call.Ends (select labels limit conflict weighing number c) (· = c) fails := by
    intro c hc number
    rw [hcomponents] at hc
    obtain ⟨v, -, rfl⟩ := List.mem_map.mp hc
    exact (Run.ends_write _).bind fun _ _ ↦ .pure rfl
  have hmade : ∀ c S : List α, S = c → S.Sublist c := fun c S h ↦ h ▸ List.Sublist.refl S
  refine (find_ends hconflict hlabels hmade hselect).mono fun S hS ↦ ?_
  split at hS
  · exact hS
  · obtain ⟨parts, hparts, rfl⟩ := hS
    rw [eq_map_of_forall₂ hparts, hcomponents, List.map_id', ← List.flatMap_def]
    exact List.flatMap_singleton' _

/-- If it is always told the same about a vertex, the selection unites what it picks from the
components. -/
theorem find_ends_united {number : α → φ} {wins : α → α → Bool}
    (hconflict : ∀ a ∈ vertices.eraseDups, ∀ b ∈ vertices.eraseDups,
      Call.Ends (conflict a b) (· = p a b) fails)
    (hnumber : ∀ a ∈ vertices.eraseDups, Call.Ends (weighing.number a) (· = number a) fails)
    (hcompare : ∀ a ∈ vertices.eraseDups, ∀ b ∈ vertices.eraseDups,
      Call.Ends (weighing.compare a b) (· = wins a b) fails)
    (hlabels : ∀ a ∈ vertices.eraseDups, Call.Ends (labels.vertex a) (fun _ ↦ True) fails)
    (hlimit : ∀ n e, limit.exceededBy n = .error e → fails e) :
    Call.Ends (find labels limit vertices conflict weighing)
      (· = united p number wins vertices.eraseDups) fails := by
  have hselect : ∀ c ∈ componentsOf p vertices.eraseDups, ∀ k,
      Call.Ends (select labels limit conflict weighing k c) (· = pick p number wins c) fails := by
    intro c hc k
    refine select_ends k (sublist_of_mem_componentsOf hc) (distinct_eraseDups vertices) hconflict
      hnumber hcompare hlabels hlimit ?_ ?_ ?_ ?_
    · rintro rfl
      rfl
    · rintro v rfl
      rfl
    · rintro v w first rfl rfl
      rfl
    · intro hthree weights hweights
      rw [pick_of_three_le hthree, eq_map_of_forall₂ hweights]
  have hmade : ∀ c S, S = pick p number wins c → S.Sublist c := by
    rintro c S rfl
    exact (pick_legalPart p number wins c).sublist
  refine (find_ends hconflict hlabels hmade hselect).mono fun S hS ↦ ?_
  split at hS
  next hsize => rw [hS, united_of_length_lt_two hsize]
  · obtain ⟨parts, hparts, rfl⟩ := hS
    rw [eq_map_of_forall₂ hparts, united]

end Run

section Exact

variable [BEq α] [AddCommGroup φ] [LinearOrder φ] {labels : Labels τ α φ} {limit : SizeLimit}
variable {conflict : α → α → Call τ Bool} {weighing : Weighing τ α ω φ} {p : α → α → Bool}
variable {vertices : List α} {weight : α → φ} {fails : Failure → Prop}

/-- With exact weights, the selection is the solution. -/
theorem find_ends_solution
    (hconflict : ∀ a ∈ vertices.eraseDups, ∀ b ∈ vertices.eraseDups,
      Call.Ends (conflict a b) (· = p a b) fails)
    (hexact : weighing.Exact weight vertices.eraseDups)
    (hlabels : ∀ a ∈ vertices.eraseDups, Call.Ends (labels.vertex a) (fun _ ↦ True) fails)
    (hlimit : ∀ n e, limit.exceededBy n = .error e → fails e) :
    Call.Ends (find labels limit vertices conflict weighing)
      (· = if vertices.eraseDups.length < 2 then vertices.eraseDups
        else solution p weight vertices.eraseDups) fails := by
  have hunited := find_ends_united hconflict (fun a ha ↦ (hexact.number a ha).of_total)
    (fun a ha b hb ↦ (hexact.compare a ha b hb).of_total) hlabels hlimit
  refine hunited.mono fun S hS ↦ ?_
  split
  next hsize => rw [hS, united_of_length_lt_two hsize]
  next hsize => rw [hS, solution_eq_united]

end Exact

end ByComponent

end Loadout
