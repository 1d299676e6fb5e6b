import Loadout.Journal.Dynamic
import Loadout.Journal.Layout
import Loadout.Proofs.Gear.Selection
import Loadout.Proofs.Selection.Tracing

/-!
# Tracing a selection of gear

What is traced of a selection of gear is, besides the sizes of the reduced lists and the selection by
components, a table of the candidates that are left.  If it can be made and laid out, tracing has no
bearing on what is found, `find_alike`.  Not every table can be laid out: one candidate whose name is
the sign of a rule is enough to make the difference.  Likewise a limit has no bearing, unless it has
no text, `find_traced`.
-/

namespace Loadout.Gear

open Run

variable {τ α σ ω φ : Type} {w : Wardrobe τ α σ ω φ} {limit limit' : SizeLimit}

/-- Candidates that can be printed at any time, with the slots that they occupy. -/
structure Presentable (w : Wardrobe τ α σ ω φ) (candidates : List (Candidate α σ φ)) : Prop where
  labels : (candidateLabels w).Printable candidates
  slots : ∀ c ∈ candidates, ∀ s ∈ c.slots, (w.slotLabel s).Harmless fun _ ↦ True

/-- The rows of presentable candidates can be made. -/
theorem Presentable.rows {candidates : List (Candidate α σ φ)} (h : Presentable w candidates) :
    (candidates.mapM (candidateRow w)).Harmless fun _ ↦ True := by
  have hrow : ∀ c ∈ candidates, (candidateRow w c).Harmless fun _ ↦ True := fun c hc ↦
    (h.labels c hc).bind fun _ _ ↦ (Call.Harmless.mapM (h.slots c hc)).bind fun _ _ ↦ .pure trivial
  exact (Call.Harmless.mapM hrow).mono fun _ _ ↦ trivial

section Reduced

variable [BEq σ] [Zero φ] [LE φ] [DecidableLE φ] [LT φ] [DecidableLT φ]

theorem mem_of_mem_consider {absent : α → Bool} {best : List (Candidate α σ φ)}
    {c d : Candidate α σ φ} (h : d ∈ consider absent best c) : d = c ∨ d ∈ best := by
  unfold consider at h
  split at h
  · exact .inr h
  · split at h
    · simpa [or_comm] using h
    · split at h
      · exact mem_replaceWinner h
      · exact .inr h

theorem bestPerSlotSet_subset (absent : α → Bool) (candidates : List (Candidate α σ φ)) :
    bestPerSlotSet absent candidates ⊆ candidates := by
  induction candidates using List.reverseRecOn with
  | nil => exact List.Subset.refl _
  | append_singleton candidates c ih =>
    intro d hd
    rw [bestPerSlotSet, List.foldl_append] at hd
    rcases mem_of_mem_consider hd with rfl | hd
    · simp
    · exact List.mem_append_left _ (ih hd)

end Reduced

variable [BEq α] [BEq σ] [Zero φ] [Add φ] [LE φ] [DecidableLE φ] [LT φ] [DecidableLT φ]
variable {items : List α} {t : Transcript}

theorem choose_alike (hlimit : limit.Decides) (hlimit' : limit'.Decides)
    {candidates : List (Candidate α σ φ)} (hlabels : (candidateLabels w).Printable candidates) :
    Alike (choose w limit candidates) (choose w limit' candidates) := by
  rw [choose, choose]
  split
  · exact .pure _
  · split
    · exact .pure _
    · exact ByComponent.find_alike hlimit hlimit'
        (hlabels.of_subset (eraseDups_sublist candidates).subset)

theorem choose_muted (candidates : List (Candidate α σ φ)) :
    Call.Preserves (Muted t) (choose w limit candidates) := by
  rw [choose]
  split
  · exact .pure _
  · split
    · exact .pure _
    · exact ByComponent.find_muted

/-- The candidates that are left of some items, as they are weighed and worn from a state on. -/
def LeftOver (w : Wardrobe τ α σ ω φ) (items : List α) (s : τ) (left : List (Candidate α σ φ)) :
    Prop :=
  ∃ candidates t, candidatesOf w items.eraseDups s = (.ok candidates, t) ∧
    left = considered w.absent (bestPerSlotSet w.absent candidates)

/-- What is left is one of the items, with slots that the item is said to occupy. -/
theorem LeftOver.mem {s : τ} {left : List (Candidate α σ φ)} {worn : σ → Prop}
    (h : LeftOver w items s left)
    (hslots : ∀ a ∈ items, Call.Ends (w.slots a) (fun slots ↦ ∀ x ∈ slots, worn x) fun _ ↦ True) :
    ∀ c ∈ left, c.item ∈ items ∧ ∀ x ∈ c.slots, worn x := by
  obtain ⟨candidates, t, hcandidates, rfl⟩ := h
  have hsub := (eraseDups_sublist items).subset
  have hends : Call.Ends (candidatesOf w items.eraseDups)
      (fun cs ↦ ∀ c ∈ cs, c.item ∈ items ∧ ∀ x ∈ c.slots, worn x) fun _ ↦ True := by
    have hany : ∀ call : Call τ (List φ), Call.Ends call (fun _ ↦ True) fun _ ↦ True :=
      fun call s _ ↦ by split <;> trivial
    refine (hany _).bind fun weights _ ↦ ?_
    refine (Call.Ends.mapM fun a ha ↦ hslots a (hsub ha)).bind fun worn hworn ↦ .pure ?_
    intro c hc
    obtain ⟨⟨a, weight, slots⟩, hzip, rfl⟩ := List.mem_map.mp hc
    obtain ⟨ha, hrest⟩ := List.of_mem_zip hzip
    refine ⟨hsub ha, fun x hx ↦ ?_⟩
    have hslots := forall_mem_of_forall₂ hworn slots (List.of_mem_zip hrest).2
    exact hslots x ((eraseDups_sublist slots).subset hx)
  have hall := hends s trivial
  rw [hcandidates] at hall
  exact fun c hc ↦ hall c (bestPerSlotSet_subset _ _ ((considered_sublist _ _).subset hc))

/-- If items and slots can be printed, then what is left is presentable. -/
theorem LeftOver.presentable {s : τ} {left : List (Candidate α σ φ)}
    (h : LeftOver w items s left) (hlabels : w.labels.Printable items)
    (hslots : ∀ a ∈ items, Call.Ends (w.slots a)
      (fun slots ↦ ∀ x ∈ slots, (w.slotLabel x).Harmless fun _ ↦ True) fun _ ↦ True) :
    Presentable w left where
  labels c hc := hlabels c.item (h.mem hslots c hc).1
  slots c hc := (h.mem hslots c hc).2

/-- The rows of the table that a run writes of the candidates that are left of different items. -/
def tracedRows (w : Wardrobe τ α σ ω φ) (items : List α) : Call τ (List (List String)) := do
  let candidates ← candidatesOf w items
  (considered w.absent (bestPerSlotSet w.absent candidates)).mapM (candidateRow w)

/-- If the candidates that are left are presentable and their table can be laid out, it does not
matter for what is found whether it is traced, nor which limit is set. -/
theorem find_alike (hlimit : limit.Decides) (hlimit' : limit'.Decides) {s : τ}
    (hleft : ∀ left, LeftOver w items s left → Presentable w left)
    (htable : ∀ rows t, tracedRows w items.eraseDups s = (.ok rows, t) →
      w.tabulate tableHeads rows = .ok ()) (j j' : Journal) :
    (find w limit items).outcome j s = (find w limit' items).outcome j' s := by
  refine outcome_bind_eq rfl fun candidates t hcandidates i i' ↦ ?_
  rw [outcome_ask] at hcandidates
  have hpresentable := hleft _ ⟨candidates, t, hcandidates, rfl⟩
  obtain ⟨rows, hmade, -⟩ := hpresentable.rows t
  have hlaid : w.tabulate tableHeads rows = .ok () := by
    refine htable rows t ?_
    rw [tracedRows, Call.bind_apply, hcandidates]
    exact hmade
  refine outcome_bind_eq rfl fun _ t₁ h₁ i i' ↦ outcome_bind_eq rfl fun _ t₂ h₂ i i' ↦ ?_
  obtain ⟨-, rfl⟩ := Prod.mk.inj h₁
  obtain ⟨-, rfl⟩ := Prod.mk.inj h₂
  refine outcome_bind_eq (outcome_journalled_eq fun i ↦ ?_) fun _ t _ i i' ↦ ?_
  · exact (outcome_ask_bind hmade _).trans (outcome_write_table hlaid _ t)
  · have hchoose := choose_alike hlimit hlimit' hpresentable.labels
    exact (hchoose.bind fun selected ↦ .pure (selected.map (·.item))) i i' t

namespace Sample

/-- A wardrobe in which everything weighs one, is worn in the same slot and is called by itself. -/
def hook : Wardrobe Unit String String Int Int where
  weighing := .known fun _ ↦ 1
  slots _ := pure ["hook"]
  labels := { vertex := pure, weight := toString }
  slotLabel := pure
  tabulate := Typesetter.ofTexts Layout.layOut
  absent _ := false

/-- An item whose name is the sign of a rule. -/
def rule : String :=
  String.singleton Value.ruleSign

end Sample

namespace Sample

/-- Three vertices that are all in conflict with each other. -/
def trio : Graph Unit Nat where
  vertices := [0, 1, 2]
  adjacent _ _ := pure true
  table := #[#[false, true, true], #[true, false, true], #[true, true, false]]
  counts := #[2, 2, 2]

def trioLabels : Labels Unit Nat Int where
  vertex v := pure (toString v)
  weight n := toString n

theorem components_trio : trio.components = [[0, 1, 2]] :=
  congrArg (List.map trio.verticesAt) Table.Sample.components_triangle

end Sample

/-- If a single candidate is left and its name is the sign of a rule, then it is found only if
nothing is traced.  And if a limit has too many digits to be written, then nothing is found in a
component that exceeds it. -/
theorem find_traced :
    ((find Sample.hook (.ofInt 24) [Sample.rule]).outcome {} () = (.ok [Sample.rule], ()) ∧
      (find Sample.hook (.ofInt 24) [Sample.rule]).outcome { disabling := .truth false } () =
        (.error (.outOfRange "list index"), ())) ∧
    (ByComponent.find Sample.trioLabels (.ofInt 24) [0, 1, 2] Sample.trio.adjacent
        (.known fun _ ↦ (1 : Int))).outcome {} () = (.ok [0], ()) ∧
      (ByComponent.find Sample.trioLabels (.ofInt (-Value.writtenBound)) [0, 1, 2]
        Sample.trio.adjacent (.known fun _ ↦ (1 : Int))).outcome {} () =
        (.error .tooLongToWrite, ()) := by
  have hunwritable : SizeLimit.ofInt (-Value.writtenBound) = ⟨fun _ ↦ .error .tooLongToWrite⟩ :=
    SizeLimit.ofInt_eq_of_unwritable (by decide +kernel) (by decide +kernel)
  have hrun : ∀ limit, (ByComponent.find Sample.trioLabels limit [0, 1, 2] Sample.trio.adjacent
      (.known fun _ ↦ (1 : Int))).outcome {} () =
        (ByComponent.findInGraph Sample.trioLabels limit Sample.trio
          (.known fun _ ↦ (1 : Int))).outcome {} () := fun _ ↦ rfl
  refine ⟨⟨rfl, rfl⟩, ?_, ?_⟩
  · rw [hrun, ByComponent.findInGraph, Sample.components_trio]
    rfl
  · rw [hunwritable, hrun, ByComponent.findInGraph, Sample.components_trio]
    rfl

theorem find_muted : Call.Preserves (Muted t) (find w limit items) := by
  refine (muted_ask _).bind fun candidates ↦ (muted_write _).bind fun _ ↦ ?_
  refine (muted_write _).bind fun _ ↦ (muted_journalled _).bind fun _ ↦ ?_
  exact (choose_muted _).bind fun selected ↦ .pure _

end Loadout.Gear
