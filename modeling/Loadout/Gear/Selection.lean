import Loadout.Gear.Reduction
import Loadout.Selection.ByComponent

/-! # Selecting gear

The heaviest gear that can be worn together: no two items may occupy a common slot.  After the
reductions nothing is left to choose if fewer than two candidates remain, or if all of them occupy a
single slot; otherwise the candidates are selected by components, two of them being in conflict when
they share a slot.
-/

namespace Loadout.Gear

variable {τ α σ ω φ : Type} [BEq α] [BEq σ]

/-- Candidates are told apart by their items. -/
instance : BEq (Candidate α σ φ) := ⟨fun c d => c.item == d.item⟩

/-- How gear is weighed, worn and described. -/
structure Wardrobe (τ α σ ω φ : Type) where
  weighing : Weighing τ α ω φ
  /-- The slots that an item occupies. -/
  slots : α → Call τ (List σ)
  labels : Labels τ α φ
  slotLabel : σ → Call τ String
  tabulate : Tabulator
  /-- Whether an item stands for an empty place. -/
  absent : α → Bool

/-- The different items of a list as candidates.  All items are weighed before the slots of the
first are asked for. -/
def candidatesOf (w : Wardrobe τ α σ ω φ) (items : List α) :
    Call τ (List (Candidate α σ φ)) := do
  let weights ← items.mapM w.weighing.number
  let slots ← items.mapM w.slots
  return (items.zip (weights.zip slots)).map fun (item, weight, occupied) =>
    { item, weight, slots := occupied.eraseDups }

/-- The labels of the candidates of a wardrobe. -/
def candidateLabels (w : Wardrobe τ α σ ω φ) : Labels τ (Candidate α σ φ) φ where
  vertex c := w.labels.vertex c.item
  weight := w.labels.weight

/-- The heads of a table of candidates. -/
def tableHeads : List String :=
  ["item", "slots", "weight"]

/-- The row of a candidate in a table. -/
def candidateRow (w : Wardrobe τ α σ ω φ) (c : Candidate α σ φ) : Call τ (List String) := do
  let item ← w.labels.vertex c.item
  let slots ← c.slots.mapM w.slotLabel
  return [item, braced slots, w.labels.weight c.weight]

variable [Zero φ] [Add φ] [LE φ] [DecidableLE φ] [LT φ] [DecidableLT φ]

/-- The heaviest selection from reduced candidates. -/
def choose (w : Wardrobe τ α σ ω φ) (limit : SizeLimit) (considered : List (Candidate α σ φ)) :
    Run τ (List (Candidate α σ φ)) :=
  if considered.length < 2 then return considered
  else if considered.all (·.slots.length == 1) then return considered
  else
    ByComponent.find (candidateLabels w) limit considered
      (fun c d => pure (shareSlot c.slots d.slots)) (.known (·.weight))

/-- The heaviest selection from a list of items. -/
def find (w : Wardrobe τ α σ ω φ) (limit : SizeLimit) (items : List α) : Run τ (List α) := do
  let items := items.eraseDups
  let candidates ← Run.ask (candidatesOf w items)
  let best := bestPerSlotSet w.absent candidates
  Run.write (.reduction "Positive weight, best per slot set" items.length best.length)
  let considered := considered w.absent best
  Run.write (.reduction "Dominated multi-slot items" best.length considered.length)
  Run.journalled do
    let rows ← Run.ask (considered.mapM (candidateRow w))
    Run.write (.heading "Considered candidates")
    w.tabulate.write tableHeads rows
  let selected ← choose w limit considered
  return selected.map (·.item)

end Loadout.Gear
