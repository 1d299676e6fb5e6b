import Loadout.Proofs.Selection.ByComponent
import Loadout.Proofs.Tracing
import Loadout.Selection.DisjointRow

/-!
# Tracing a selection

What the solvers find does not depend on the journal that they write to, nor on the limit above
which they warn of a large component, if they can write down the labels of the vertices.  With a
disabled journal they write nothing.
-/

namespace Loadout

open Run

variable {τ α ω φ : Type} {labels : Labels τ α φ} {limit limit' : SizeLimit} {vertices : List α}
variable {conflict : α → α → Call τ Bool} {weighing : Weighing τ α ω φ} {t : Transcript}

/-- The labels of some values can be asked for at any time, as often as one likes. -/
def Labels.Printable (labels : Labels τ α φ) (values : List α) : Prop :=
  ∀ a ∈ values, (labels.vertex a).Harmless fun _ ↦ True

theorem Labels.Printable.of_subset {values others : List α} (h : labels.Printable values)
    (hsub : others ⊆ values) : labels.Printable others :=
  fun a ha ↦ h a (hsub ha)

theorem Labels.Printable.names {values : List α} (h : labels.Printable values) :
    (values.mapM labels.vertex).Harmless fun _ ↦ True :=
  (Call.Harmless.mapM h).mono fun _ _ ↦ trivial

theorem Labels.Printable.selection {selected : List α} (h : labels.Printable selected) :
    (labels.selection selected).Harmless fun _ ↦ True :=
  .map h.names

theorem filterMap_getElem?_subset (values : List α) (places : List Nat) :
    places.filterMap (values[·]?) ⊆ values := by
  intro a ha
  obtain ⟨i, -, hi⟩ := List.mem_filterMap.mp ha
  exact List.mem_of_getElem? hi

namespace Exhaustive

variable [BEq α] [Zero φ] [Add φ] [LT φ] [DecidableLT φ]

theorem find_alike (hlabels : labels.Printable vertices.eraseDups) :
    Alike (find labels vertices conflict weighing) (find labels vertices conflict weighing) := by
  by_cases hsize : vertices.eraseDups.length < 2
  · simp only [find, hsize, if_true]
    exact .pure _
  · simp only [find, hsize, if_false]
    refine (Alike.ask _).bind fun weights ↦ (Alike.ask _).bind fun table ↦ ?_
    refine (Alike.forM fun c _ ↦ .write _ _).bind fun _ ↦ ?_
    have hsub := filterMap_getElem?_subset vertices.eraseDups
      (searchAll table.cell weights).best.members
    have htext := (hlabels.of_subset hsub).selection
    refine (Alike.journalled ?_).bind fun _ ↦ .pure _
    exact (Quiet.ask htext).bind fun text _ ↦ .write _

theorem find_muted : Call.Preserves (Muted t) (find labels vertices conflict weighing) := by
  by_cases hsize : vertices.eraseDups.length < 2
  · simp only [find, hsize, if_true]
    exact .pure _
  · simp only [find, hsize, if_false]
    refine (muted_ask _).bind fun weights ↦ (muted_ask _).bind fun table ↦ ?_
    refine (Call.Preserves.forM fun c _ ↦ muted_write _).bind fun _ ↦ ?_
    exact (muted_journalled _).bind fun _ ↦ .pure _

end Exhaustive

namespace ByComponent

variable [BEq α] [Zero φ] [Add φ] [LT φ] [DecidableLT φ] {g : Graph τ α}

theorem select_alike (hlimit : limit.Decides) (hlimit' : limit'.Decides) (number : Nat)
    {component : List α} (hlabels : labels.Printable component) :
    Alike (select labels limit conflict weighing number component)
      (select labels limit' conflict weighing number component) := by
  match component with
  | [] => exact .pure _
  | [v] => exact (Alike.write _ _).bind fun _ ↦ .pure _
  | [v, w] =>
    refine (Alike.write _ _).bind fun _ ↦ (Alike.ask _).bind fun first ↦ ?_
    exact (Alike.ask _).bind fun second ↦ (Alike.ofExcept _).bind fun b ↦ .pure _
  | u :: v :: w :: rest =>
    obtain ⟨text, htext⟩ := hlimit (u :: v :: w :: rest).length
    obtain ⟨text', htext'⟩ := hlimit' (u :: v :: w :: rest).length
    have hsearch : Alike
        (Run.write (.component number (u :: v :: w :: rest).length .exhaustive) >>= fun _ ↦
          Exhaustive.find labels (u :: v :: w :: rest) conflict weighing)
        (Run.write (.component number (u :: v :: w :: rest).length .exhaustive) >>= fun _ ↦
          Exhaustive.find labels (u :: v :: w :: rest) conflict weighing) :=
      (Alike.write _ _).bind fun _ ↦
        Exhaustive.find_alike (hlabels.of_subset (eraseDups_sublist _).subset)
    simp only [select, htext, htext']
    cases text with
    | none =>
      cases text' with
      | none => exact hsearch
      | some text' => exact hsearch.write_right _
    | some text =>
      cases text' with
      | none => exact hsearch.write_left _
      | some text' => exact (hsearch.write_left _).write_right _

theorem select_muted (number : Nat) (component : List α) :
    Call.Preserves (Muted t) (select labels limit conflict weighing number component) := by
  match component with
  | [] => exact .pure _
  | [v] => exact (muted_write _).bind fun _ ↦ .pure _
  | [v, w] =>
    refine (muted_write _).bind fun _ ↦ (muted_ask _).bind fun first ↦ ?_
    exact (muted_ask _).bind fun second ↦ (muted_ofExcept _).bind fun b ↦ .pure _
  | u :: v :: w :: rest =>
    simp only [select]
    refine (muted_ofExcept _).bind fun b ↦ ?_
    split
    · exact (muted_emit _ _).bind fun _ ↦ (muted_write _).bind fun _ ↦ Exhaustive.find_muted
    · exact (muted_write _).bind fun _ ↦ Exhaustive.find_muted

theorem findInGraph_alike (hlimit : limit.Decides) (hlimit' : limit'.Decides)
    (hlabels : labels.Printable g.vertices) :
    Alike (findInGraph labels limit g weighing) (findInGraph labels limit' g weighing) := by
  by_cases hsize : g.size < 2
  · simp only [findInGraph, hsize, if_true]
    exact .pure _
  · simp only [findInGraph, hsize, if_false]
    refine (Alike.write _ _).bind fun _ ↦ ?_
    refine (Alike.journalled ?_).bind fun _ ↦ ?_
    · exact (Quiet.ask hlabels.names).bind fun names _ ↦ .write _
    refine (Alike.mapM fun item hitem ↦ ?_).bind fun selections ↦ ?_
    · obtain ⟨component, number⟩ := item
      refine select_alike hlimit hlimit' number (hlabels.of_subset ?_)
      have hmem := List.mem_of_getElem? (List.mem_zipIdx_iff_getElem?.mp hitem)
      obtain ⟨places, -, rfl⟩ := List.mem_map.mp hmem
      exact filterMap_getElem?_subset g.vertices places
    · exact (Alike.ask _).bind fun text ↦ (Alike.write _ _).bind fun _ ↦
        (Alike.write _ _).bind fun _ ↦ .pure _

theorem findInGraph_muted : Call.Preserves (Muted t) (findInGraph labels limit g weighing) := by
  by_cases hsize : g.size < 2
  · simp only [findInGraph, hsize, if_true]
    exact .pure _
  · simp only [findInGraph, hsize, if_false]
    refine (muted_write _).bind fun _ ↦ (muted_journalled _).bind fun _ ↦ ?_
    refine (Call.Preserves.mapM fun item _ ↦ select_muted item.2 item.1).bind fun selections ↦ ?_
    exact (muted_ask _).bind fun text ↦ (muted_write _).bind fun _ ↦
      (muted_write _).bind fun _ ↦ .pure _

/-- Whatever a relation answers, a graph is made of the different values. -/
theorem build_ends_vertices :
    Call.Ends (Graph.build vertices conflict) (·.vertices = vertices.eraseDups) fun _ ↦ True :=
  Call.Ends.bind (fun s _ ↦ by split <;> trivial : Call.Ends _ (fun _ ↦ True) _) fun _ _ ↦ .pure rfl

theorem find_alike (hlimit : limit.Decides) (hlimit' : limit'.Decides)
    (hlabels : labels.Printable vertices.eraseDups) :
    Alike (find labels limit vertices conflict weighing)
      (find labels limit' vertices conflict weighing) := by
  by_cases hsize : vertices.eraseDups.length < 2
  · simp only [find, hsize, if_true]
    exact .pure _
  · simp only [find, hsize, if_false]
    refine (Alike.ask _).bind_of (Run.ends_ask build_ends_vertices) fun g hg ↦ ?_
    refine findInGraph_alike hlimit hlimit' (hlabels.of_subset ?_)
    rw [hg]
    exact (eraseDups_sublist _).subset

theorem find_muted :
    Call.Preserves (Muted t) (find labels limit vertices conflict weighing) := by
  by_cases hsize : vertices.eraseDups.length < 2
  · simp only [find, hsize, if_true]
    exact .pure _
  · simp only [find, hsize, if_false]
    exact (muted_ask _).bind fun g ↦ findInGraph_muted

end ByComponent

namespace DisjointRow

variable [BEq α] [Zero φ] [One φ] [Add φ] [Mul φ] [LE φ] [DecidableLE φ] {tabulate : Tabulator}

/-- The rows of the table that a run writes of different values. -/
def tracedRows (labels : Labels τ α φ) (conflict : α → α → Call τ Bool)
    (weighing : Weighing τ α ω φ) (values : List α) : Call τ (List (List String)) := do
  let weights ← values.mapM weighing.number
  let intersections ← adjacencyTable conflict values
  tableRows labels values weights
    (weights.zipIdx.map fun (own, i) ↦ rowWeight intersections weights i own)

/-- If the vertices can be printed and the table that is written can be laid out, it does not matter
for what is found whether it is traced. -/
theorem find_alike {s : τ} (hlabels : labels.Printable vertices.eraseDups)
    (htable : 2 ≤ vertices.eraseDups.length → ∀ rows t,
      tracedRows labels conflict weighing vertices.eraseDups s = (.ok rows, t) →
        tabulate tableHeads rows = .ok ()) (j j' : Journal) :
    (find labels tabulate vertices conflict weighing).outcome j s =
      (find labels tabulate vertices conflict weighing).outcome j' s := by
  by_cases hsize : vertices.eraseDups.length < 2
  · simp only [find, hsize, if_true]
    rfl
  simp only [find, hsize, if_false]
  refine outcome_bind_eq rfl fun weights t hweights i i' ↦ ?_
  refine outcome_bind_eq rfl fun table u hcells i i' ↦ ?_
  rw [outcome_ask] at hweights hcells
  set rowWeights := weights.zipIdx.map fun (own, i) ↦ rowWeight table weights i own
  have hrows : (tableRows labels vertices.eraseDups weights rowWeights).Harmless fun _ ↦ True :=
    hlabels.names.bind fun _ _ ↦ .pure trivial
  obtain ⟨rows, hmade, -⟩ := hrows u
  have hlaid : tabulate tableHeads rows = .ok () := by
    refine htable (Nat.not_lt.mp hsize) rows u ?_
    rw [tracedRows, Call.bind_apply, hweights]
    simp only [Call.bind_apply, hcells]
    exact hmade
  refine outcome_bind_eq rfl fun _ v hv i i' ↦ ?_
  obtain ⟨-, rfl⟩ := Prod.mk.inj hv
  refine outcome_bind_eq (outcome_journalled_eq fun i ↦ ?_) fun _ v _ i i' ↦ ?_
  · exact (outcome_ask_bind hmade _).trans (outcome_write_table hlaid i u)
  refine (?_ : Alike _ _) i i' v
  split
  · exact (Alike.ask _).bind fun name ↦ (Alike.write _ _).bind fun _ ↦
      (Alike.write _ _).bind fun _ ↦ .pure _
  · exact (Alike.write _ _).bind fun _ ↦ .pure _

theorem find_muted :
    Call.Preserves (Muted t) (find labels tabulate vertices conflict weighing) := by
  by_cases hsize : vertices.eraseDups.length < 2
  · simp only [find, hsize, if_true]
    exact .pure _
  · simp only [find, hsize, if_false]
    refine (muted_ask _).bind fun weights ↦ (muted_ask _).bind fun table ↦ ?_
    refine (muted_write _).bind fun _ ↦ (muted_journalled _).bind fun _ ↦ ?_
    split
    · exact (muted_ask _).bind fun name ↦ (muted_write _).bind fun _ ↦
        (muted_write _).bind fun _ ↦ .pure _
    · exact (muted_write _).bind fun _ ↦ .pure _

end DisjointRow

end Loadout
