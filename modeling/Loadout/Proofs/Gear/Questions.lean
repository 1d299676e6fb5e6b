import Loadout.Proofs.Gear.Exactness
import Loadout.Proofs.Selection.Questions

/-!
# The questions of a selection of gear

All that a selection of gear asks of the caller's weights is asked at its beginning: each of the
different items is weighed once, in their order, until a weight fails, `Gear.find_weighs`.  The
reductions and the solver work with the weights that were answered then.  Main statement:
`Gear.selections_ask`.
-/

namespace Loadout.Gear

open Run

variable {τ α σ ω φ : Type} {invariant : τ → Prop} {w : Wardrobe τ α σ ω φ} {limit : SizeLimit}

/-! ## What is left of the caller -/

theorem preserves_candidateRow (hlabels : ∀ a, Call.Preserves invariant (w.labels.vertex a))
    (hslotLabels : ∀ x, Call.Preserves invariant (w.slotLabel x)) (c : Candidate α σ φ) :
    Call.Preserves invariant (candidateRow w c) := by
  refine (hlabels c.item).bind fun item ↦ ?_
  exact (Call.Preserves.mapM fun x _ ↦ hslotLabels x).bind fun slots ↦ .pure _

variable [BEq α] [BEq σ] [Zero φ] [Add φ] [LE φ] [DecidableLE φ] [LT φ] [DecidableLT φ]

/-- The solver is given answers that are known, so it asks for labels only. -/
theorem choose_preserves (hlabels : ∀ a, Call.Preserves invariant (w.labels.vertex a))
    (candidates : List (Candidate α σ φ)) :
    Call.Preserves (invariant ∘ World.caller) (choose w limit candidates) := by
  rw [choose]
  split
  · exact .pure candidates
  · split
    · exact .pure candidates
    · exact ByComponent.find_preserves (fun c ↦ hlabels c.item) (fun _ _ ↦ .pure _)
        (fun _ ↦ .pure _) candidates

/-- A caller who always gives the same weight of an item, a number, and who adds every item that is
weighed to a record, and nothing else. -/
structure Weighed (record : τ → List α) (w : Wardrobe τ α σ ω φ) (weight : α → Except Failure ω) :
    Prop where
  weight_eq : ∀ a s, (w.weighing.weigh a s).1 = weight a
  weight_noted : ∀ a s, record (w.weighing.weigh a s).2 = record s ++ [a]
  measured : ∀ a x, weight a = .ok x → ∃ y, w.weighing.measure x = .ok y
  slots_apart : ∀ a s, record (w.slots a s).2 = record s
  labels_apart : ∀ a s, record (w.labels.vertex a s).2 = record s
  slotLabels_apart : ∀ x s, record (w.slotLabel x s).2 = record s

/-- An agenda of items to be weighed during a run. -/
def toWeigh (record : τ → List α) (weight : α → Except Failure ω) (before : List α) :
    Agenda (World τ) α :=
  (Agenda.recording (fun a ↦ failureOf (weight a)) record before).within World.caller fun _ ↦ True

section Weighed

variable {record : τ → List α} {weight : α → Except Failure ω} {before : List α}

omit [BEq α] [Zero φ] [Add φ] [LE φ] [DecidableLE φ] [LT φ] [DecidableLT φ] in
/-- Items become candidates by weighing each of them. -/
theorem Weighed.traces_candidatesOf (h : Weighed record w weight) (items : List α) :
    (toWeigh record weight before).Traces False (ask (candidatesOf w items)) [] items := by
  have hnumbers : (Agenda.recording (fun a ↦ failureOf (weight a)) record before).Performs
      (items.mapM w.weighing.number) [] (items.map id) (fun _ ↦ True) :=
    Weighing.performs_numbers h.weight_eq h.weight_noted (fun _ ↦ rfl) h.measured items
  have hweights : (toWeigh record weight before).Performs
      (ask (items.mapM w.weighing.number)) [] (items.map id) (fun _ ↦ True) :=
    hnumbers.zoom (fun _ ↦ rfl) (fun _ _ ↦ rfl) fun _ _ _ ↦ trivial
  rw [List.map_id] at hweights
  rw [candidatesOf, Run.ask_bind]
  refine hweights.bind_traces_nothing fun weights _ ↦ .of_kept fun v hv ↦ ⟨?_, False.elim⟩
  have hslots : ∀ a, Call.Preserves (record · = before ++ ([] ++ items)) (w.slots a) :=
    fun a ↦ .of_kept (h.slots_apart a) _
  refine Call.Preserves.iff_snd.mp (?_ : Call.Preserves
    ((record · = before ++ ([] ++ items)) ∘ World.caller) _) v hv.2
  exact preserves_ask ((Call.Preserves.mapM fun a _ ↦ hslots a).bind fun slots ↦ .pure _)

end Weighed

/-- The different items are weighed once each, in their order, until a weight fails, and this failure
is what comes of the selection then. -/
theorem find_weighs {record : τ → List α} {weight : α → Except Failure ω}
    (h : Weighed record w weight) (items : List α) (j : Journal) (s : τ) :
    ∃ asked, record ((find w limit items).outcome j s).2 = record s ++ asked ∧
      CutShort (fun a ↦ failureOf (weight a)) items.eraseDups asked
        ((find w limit items).outcome j s).1 := by
  have htraces : (toWeigh record weight (record s)).Traces False (find w limit items) []
      items.eraseDups := by
    refine (h.traces_candidatesOf items.eraseDups).bind_kept fun steps candidates v hv ↦ ?_
    have hlabels : ∀ a, Call.Preserves (record · = record s ++ steps) (w.labels.vertex a) :=
      fun a ↦ .of_kept (h.labels_apart a) _
    have hslotLabels : ∀ x, Call.Preserves (record · = record s ++ steps) (w.slotLabel x) :=
      fun x ↦ .of_kept (h.slotLabels_apart x) _
    refine Call.Preserves.iff_snd.mp (?_ : Call.Preserves
      ((record · = record s ++ steps) ∘ World.caller) _) v hv
    refine (preserves_write _).bind fun _ ↦ (preserves_write _).bind fun _ ↦ ?_
    refine (preserves_journalled ?_).bind fun _ ↦ ?_
    · refine (preserves_ask (.mapM fun c _ ↦
        preserves_candidateRow hlabels hslotLabels c)).bind fun rows ↦ ?_
      exact (preserves_write _).bind fun _ ↦ (preserves_ofExcept _).bind fun _ ↦ preserves_write _
    · exact (choose_preserves hlabels _).bind fun selected ↦ .pure _
  obtain ⟨asked, hrecord, hcut, -⟩ := htraces.recorded trivial
  exact ⟨asked, hrecord, hcut⟩

/-! ## The record of a selection -/

/-- What the selections ask their caller, if the answers depend on nothing but the questions.  For
vertices it is whether each conflicts with each other one, and then what the components need; for
gear it is what each of the different items weighs.  Either way it is asked in order, up to the first
question that fails, and this failure is what comes of it.  If the journal is in use, the vertices
must be such that they can be printed. -/
theorem selections_ask [ReflBEq α] :
    (∀ (record : τ → List (Question α)) (labels : Labels τ α φ) (limit : SizeLimit)
        (vertices : List α) (conflict : α → α → Call τ Bool) (weighing : Weighing τ α ω φ)
        (replies : Replies α ω) (j : Journal) (s : τ),
      Interview record conflict weighing replies →
      (∀ a s, record (labels.vertex a s).2 = record s) →
      limit.Decides → 2 ≤ vertices.eraseDups.length →
      (j.disabled = true ∨ labels.Printable vertices.eraseDups) →
      ∃ components asked,
        record ((ByComponent.find labels limit vertices conflict weighing).outcome j s).2 =
            record s ++ asked ∧
          Questioned replies vertices.eraseDups components asked
            ((ByComponent.find labels limit vertices conflict weighing).outcome j s).1 ∧
          (labels.Printable vertices.eraseDups → (∀ q ∈ asked, replies.fault q = none) → ∃ S,
            ((ByComponent.find labels limit vertices conflict weighing).outcome j s).1 = .ok S)) ∧
    ∀ (record : τ → List α) (w : Wardrobe τ α σ ω φ) (limit : SizeLimit) (items : List α)
        (weight : α → Except Failure ω) (j : Journal) (s : τ),
      Weighed record w weight →
      ∃ asked, record ((find w limit items).outcome j s).2 = record s ++ asked ∧
        CutShort (fun a ↦ failureOf (weight a)) items.eraseDups asked
          ((find w limit items).outcome j s).1 := by
  constructor
  · intro record labels limit vertices conflict weighing replies j s h hlabels hlimit hsize htexts
    exact ByComponent.find_asks h hlabels hlimit hsize htexts s
  · intro record w limit items weight j s h
    exact find_weighs h items j s

namespace Sample

/-- A caller who notes every question. -/
def noting {β : Type} (q : Question Nat) (reply : Except Failure β) :
    Call (List (Question Nat)) β :=
  fun asked ↦ (reply, asked ++ [q])

/-- Replies with no weight for one vertex, which is in a component of three. -/
def replies : Replies Nat Int where
  conflict a b := .ok (Loadout.Sample.conflict a b)
  weight v := if v = 4 then .error (.reported .value "no weight") else .ok (v : Int)

def weighing : Weighing (List (Question Nat)) Nat Int Int where
  weigh v := noting (.weight v) (replies.weight v)
  atLeast x y := .ok (y ≤ x)
  measure := .ok

def wardrobe : Wardrobe (List (Question Nat)) Nat Nat Int Int where
  weighing := weighing
  slots a := pure (Loadout.Sample.slotsOf a)
  labels := { vertex := fun a ↦ pure (toString a), weight := fun n ↦ toString n }
  slotLabel s := pure (toString s)
  tabulate _ _ := .ok ()
  absent _ := false

/-- A vertex without conflicts and a component of three, one of them named twice. -/
def fewVertices : List Nat := [0, 3, 4, 3, 5]

/-- A selection of vertices, with all that is asked for it. -/
def vertices : Except Failure (List Nat) × List (Question Nat) :=
  (ByComponent.find wardrobe.labels (.ofInt 2) fewVertices
    (fun a b ↦ noting (.conflict a b) (replies.conflict a b)) weighing).outcome {} []

/-- A selection of gear, with all that is asked for it. -/
def gear : Except Failure (List Nat) × List (Question Nat) :=
  (find wardrobe (.ofInt 2) Loadout.Sample.items).outcome {} []

theorem interview :
    Interview id (fun a b ↦ noting (.conflict a b) (replies.conflict a b)) weighing replies where
  conflict_eq _ _ _ := rfl
  conflict_noted _ _ _ := rfl
  weight_eq _ _ := rfl
  weight_noted _ _ := rfl
  measured _ x _ := ⟨x, rfl⟩
  compared _ _ x y _ _ := ⟨decide (y ≤ x), rfl⟩

theorem weighed : Weighed (List.filterMap Question.weighed) wardrobe replies.weight where
  weight_eq _ _ := rfl
  weight_noted _ _ := List.filterMap_append
  measured _ x _ := ⟨x, rfl⟩
  slots_apart _ _ := rfl
  labels_apart _ _ := rfl
  slotLabels_apart _ _ := rfl

end Sample

theorem selections_ask_sample :
    (∃ components, Questioned Sample.replies Sample.fewVertices.eraseDups components
        Sample.vertices.2 Sample.vertices.1) ∧
      CutShort (fun a ↦ failureOf (Sample.replies.weight a)) Loadout.Sample.items.eraseDups
        (Sample.gear.2.filterMap Question.weighed) Sample.gear.1 := by
  have h := selections_ask (τ := List (Question Nat)) (α := Nat) (σ := Nat) (ω := Int) (φ := Int)
  constructor
  · obtain ⟨components, asked, hrecord, hasked, -⟩ := h.1 id Sample.wardrobe.labels (.ofInt 2)
      Sample.fewVertices _ Sample.weighing Sample.replies {} [] Sample.interview
      (fun _ _ ↦ rfl) (.ofInt (by decide +kernel)) (by decide) (.inl rfl)
    obtain rfl : Sample.vertices.2 = asked := hrecord
    exact ⟨components, hasked⟩
  · obtain ⟨asked, hrecord, hcut⟩ := h.2 (List.filterMap Question.weighed) Sample.wardrobe
      (.ofInt 2) Loadout.Sample.items Sample.replies.weight {} [] Sample.weighed
    obtain rfl : Sample.gear.2.filterMap Question.weighed = asked := hrecord
    exact hcut

end Loadout.Gear
