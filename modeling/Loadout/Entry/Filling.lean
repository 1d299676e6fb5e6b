import Loadout.Entry.Argument
import Loadout.Value.Buffer

/-! # Filling storage for values

Filling a table from a sequence of values of any kind, whose elements are reached by their places as
the cells are asked for.
-/

namespace Loadout.Entry

/-- A relation of values that may turn out not to be reachable. -/
def onReached (relation : Supplied ValueRelation) (left right : Except Failure Value) :
    Call Caller Bool := do
  let left ← .ofExcept left
  let right ← .ofExcept right
  match relation with
  | .function r => r.holds left right
  | .value v => throw (.notInvocable v.kind)

/-- The elements of a sequence by their places; the first one must be there. -/
def reach (values : Value) : Except Failure (List (Except Failure Value)) := do
  let reached := (List.range (← values.size)).map values.item
  match reached with
  | .error e :: _ => throw e
  | _ => return reached

/-- Fill storage from a sequence of values. -/
def fill {β γ : Type} [Grid β] (values : Value) (relation : Supplied ValueRelation) :
    Call (Sheet β γ Caller) Unit := do
  let reached ← .ofExcept (reach values)
  Sheet.fill (onReached relation) reached

/-- Fill storage from a sequence of values, and store the number of set cells of each row. -/
def fillWithCounts {β γ : Type} [Grid β] [Tally γ] (values : Value)
    (relation : Supplied ValueRelation) : Call (Sheet β γ Caller) Unit := do
  let reached ← .ofExcept (reach values)
  Sheet.fillWithCounts (onReached relation) reached

end Loadout.Entry
