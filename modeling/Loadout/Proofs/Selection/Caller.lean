import Loadout.Proofs.Distinct
import Loadout.Proofs.Graph.Filling
import Loadout.Proofs.Graph.RowByRow
import Loadout.Proofs.Tracing
import Loadout.Selection.ByComponent

/-!
# What a selection does to its caller

A solver changes the state of its caller only by calling the caller's functions.  So what all of
these preserve is preserved by building a graph, by an exhaustive search and by the selection by
components, whatever is answered and wherever one of them fails: `ByComponent.find_preserves`.
-/

namespace Loadout

variable {τ α β γ ω φ : Type} {invariant : τ → Prop}

open Call

/-! ## Tables -/

/-- The caller's part of a sheet is changed by asking only. -/
theorem Sheet.preserves_caller [Grid β] {adjacent : α → α → Call τ Bool}
    {finish : Nat → Nat → Call (Sheet β γ τ) Unit} (h : ∀ a b, Preserves invariant (adjacent a b))
    (hfinish : ∀ i count, Preserves (invariant ∘ Sheet.caller) (finish i count))
    (values rest : List (α × Nat)) :
    Preserves (invariant ∘ Sheet.caller) (fillRows adjacent finish values rest) :=
  preserves_fillRows (fun a b ↦ (h a b).zoom (fun _ ↦ rfl) fun _ _ ↦ rfl)
    (fun _ _ _ ↦ .zoom_apart _ fun _ _ hs ↦ hs) hfinish values rest

/-- What is preserved beside a sheet is preserved by handing over what it holds in the end. -/
theorem Call.Preserves.onSheet {grid : β} {counts : γ} {work : Call (Sheet β γ τ) Unit}
    (h : Preserves (invariant ∘ Sheet.caller) work) :
    Preserves invariant (Call.onSheet grid counts work) :=
  Triple.onSheet h fun _ hs ↦ hs

variable {conflict : α → α → Call τ Bool} {values : List α}

theorem preserves_adjacencyTable (h : ∀ a b, Preserves invariant (conflict a b)) :
    Preserves invariant (adjacencyTable conflict values) := by
  have hfill : Preserves (invariant ∘ Sheet.caller)
      (Sheet.fill conflict values : Call (Sheet Table Unit τ) Unit) :=
    Sheet.preserves_caller h (fun _ _ ↦ .pure ()) _ _
  exact hfill.onSheet.map

theorem Graph.preserves_build [BEq α] (h : ∀ a b, Preserves invariant (conflict a b)) :
    Preserves invariant (Graph.build values conflict) := by
  have hfill : Preserves (invariant ∘ Sheet.caller)
      (Sheet.fillWithCounts conflict values.eraseDups : Call (Sheet Table (Array Nat) τ) Unit) :=
    Sheet.preserves_caller h (fun _ _ ↦ .zoom_apart _ fun _ _ hs ↦ hs) _ _
  exact hfill.onSheet.bind fun _ ↦ .pure _

/-! ## Runs -/

namespace Run

theorem preserves_ask {call : Call τ α} (h : Preserves invariant call) :
    Preserves (invariant ∘ World.caller) (ask call) :=
  h.zoom (fun _ ↦ rfl) fun _ _ ↦ rfl

theorem preserves_write (f : Journal → Journal) :
    Preserves (invariant ∘ World.caller) (write f : Run τ Unit) :=
  fun _ hw ↦ hw

theorem preserves_ofExcept (result : Except Failure α) :
    Preserves (invariant ∘ World.caller) (ofExcept result : Run τ α) :=
  .ofExcept result

theorem preserves_journalled {property : World τ → Prop} {act : Run τ Unit}
    (h : Preserves property act) : Preserves property (journalled act) := by
  refine Preserves.iff_snd.mpr fun w hw ↦ ?_
  rw [journalled_apply]
  split
  · exact hw
  · exact Preserves.iff_snd.mp h w hw

end Run

open Run

theorem Labels.preserves_selection {labels : Labels τ α φ}
    (h : ∀ a, Preserves invariant (labels.vertex a)) (selected : List α) :
    Preserves invariant (labels.selection selected) :=
  .map (.mapM fun a _ ↦ h a)

theorem Weighing.preserves_number {weighing : Weighing τ α ω φ} {a : α}
    (h : Preserves invariant (weighing.weigh a)) : Preserves invariant (weighing.number a) :=
  h.bind fun answer ↦ .ofExcept (weighing.measure answer)

section Solvers

variable [BEq α] [Zero φ] [Add φ] [LT φ] [DecidableLT φ]
variable {labels : Labels τ α φ} {limit : SizeLimit} {weighing : Weighing τ α ω φ}

theorem Exhaustive.find_preserves (hlabels : ∀ a, Preserves invariant (labels.vertex a))
    (hconflict : ∀ a b, Preserves invariant (conflict a b)) {vertices : List α}
    (hweigh : ∀ a ∈ vertices, Preserves invariant (weighing.weigh a)) :
    Preserves (invariant ∘ World.caller) (find labels vertices conflict weighing) := by
  by_cases hsize : vertices.eraseDups.length < 2
  · simp only [find, hsize, if_true]
    exact .pure _
  · simp only [find, hsize, if_false]
    have hnumbers : Preserves invariant (vertices.eraseDups.mapM weighing.number) :=
      .mapM fun a ha ↦ Weighing.preserves_number (hweigh a ((eraseDups_sublist vertices).subset ha))
    refine (preserves_ask hnumbers).bind fun weights ↦ ?_
    refine (preserves_ask (preserves_adjacencyTable hconflict)).bind fun table ↦ ?_
    refine (Preserves.forM fun _ _ ↦ preserves_write _).bind fun _ ↦ ?_
    refine (preserves_journalled ?_).bind fun _ ↦ .pure _
    refine (preserves_ask (Labels.preserves_selection hlabels _)).bind fun text ↦ ?_
    exact preserves_write _

namespace ByComponent

theorem select_preserves (hlabels : ∀ a, Preserves invariant (labels.vertex a))
    (hconflict : ∀ a b, Preserves invariant (conflict a b)) (number : Nat) {component : List α}
    (hweigh : ∀ a ∈ component, Preserves invariant (weighing.weigh a)) :
    Preserves (invariant ∘ World.caller)
      (select labels limit conflict weighing number component) := by
  match component with
  | [] => exact .pure _
  | [v] => exact (preserves_write _).bind fun _ ↦ .pure _
  | [v, w] =>
    refine (preserves_write _).bind fun _ ↦ ?_
    refine (preserves_ask (hweigh v (by simp))).bind fun first ↦ ?_
    refine (preserves_ask (hweigh w (by simp))).bind fun second ↦ ?_
    exact (preserves_ofExcept _).bind fun b ↦ .pure _
  | u :: v :: w :: rest =>
    have hsearch := Exhaustive.find_preserves hlabels hconflict hweigh
    simp only [select]
    refine (preserves_ofExcept _).bind fun b ↦ ?_
    split
    · exact (preserves_write _).bind fun _ ↦ (preserves_write _).bind fun _ ↦ hsearch
    · exact (preserves_write _).bind fun _ ↦ hsearch

theorem findInGraph_preserves (hlabels : ∀ a, Preserves invariant (labels.vertex a)) {g : Graph τ α}
    (hconflict : ∀ a b, Preserves invariant (g.adjacent a b))
    (hweigh : ∀ a, Preserves invariant (weighing.weigh a)) :
    Preserves (invariant ∘ World.caller) (findInGraph labels limit g weighing) := by
  by_cases hsize : g.size < 2
  · simp only [findInGraph, hsize, if_true]
    exact .pure _
  · simp only [findInGraph, hsize, if_false]
    refine (preserves_write _).bind fun _ ↦ (preserves_journalled ?_).bind fun _ ↦ ?_
    · have hnames : Preserves invariant (g.vertices.mapM labels.vertex) := .mapM fun a _ ↦ hlabels a
      exact (preserves_ask hnames).bind fun names ↦ preserves_write _
    refine (Preserves.mapM fun item _ ↦ ?_).bind fun selections ↦ ?_
    · exact select_preserves hlabels hconflict item.2 fun a _ ↦ hweigh a
    refine (preserves_ask (Labels.preserves_selection hlabels _)).bind fun text ↦ ?_
    exact (preserves_write _).bind fun _ ↦ (preserves_write _).bind fun _ ↦ .pure _

/-- The selection by components preserves what all functions of the caller preserve. -/
theorem find_preserves (hlabels : ∀ a, Preserves invariant (labels.vertex a))
    (hconflict : ∀ a b, Preserves invariant (conflict a b))
    (hweigh : ∀ a, Preserves invariant (weighing.weigh a)) (vertices : List α) :
    Preserves (invariant ∘ World.caller) (find labels limit vertices conflict weighing) := by
  by_cases hsize : vertices.eraseDups.length < 2
  · simp only [find, hsize, if_true]
    exact .pure _
  · simp only [find, hsize, if_false]
    have hadjacent : Ends (Graph.build vertices.eraseDups conflict) (·.adjacent = conflict)
        fun _ ↦ True := .bind (.anything _) fun _ _ ↦ .pure rfl
    refine (preserves_ask (Graph.preserves_build hconflict)).bind_of (ends_ask hadjacent) ?_
    rintro g rfl
    exact findInGraph_preserves hlabels hconflict hweigh

end ByComponent

end Solvers

end Loadout
