import Loadout.Graph.Components
import Loadout.Selection.Exhaustive
import Loadout.Value.Wording

/-! # Selection by components

A heaviest set of vertices without conflicts, found component by component.  No conflict crosses two
components, so the selections of the components can be united, and the exhaustive search is needed
only within a component of three vertices or more.  A single vertex is always selected; of two, the
first is selected if it weighs at least as much as the second.
-/

namespace Loadout

/-- The size above which a component is reported before it is searched. -/
structure SizeLimit where
  /-- The text of the limit, if a size exceeds it.  Either can fail: sizes may have no order with the
  limit, and a limit that is exceeded may have no text. -/
  exceededBy : Nat → Except Failure (Option String)

/-- A limit that is a whole number. -/
def SizeLimit.ofInt (n : Int) : SizeLimit where
  exceededBy size := if n < size then some <$> Value.digits n else .ok none

namespace ByComponent

open Number (integerText)

variable {τ α ω φ : Type} [BEq α] [Zero φ] [Add φ] [LT φ] [DecidableLT φ]

/-- The warning about a large component. -/
def sizeWarning (limit : String) (number size : Nat) : String :=
  "Component " ++ integerText number ++ " has " ++ integerText size
    ++ " vertices, above the configured maximum of " ++ limit
    ++ "; the exhaustive search may take a long time"

/-- The selection from one component. -/
def select (labels : Labels τ α φ) (limit : SizeLimit) (conflict : α → α → Call τ Bool)
    (weighing : Weighing τ α ω φ) (number : Nat) : List α → Run τ (List α)
  | [] => return []
  | [v] => do
    Run.write (.component number 1 .isolated)
    return [v]
  | [v, w] => do
    Run.write (.component number 2 .pair)
    let first ← Run.ask (weighing.weigh v)
    let second ← Run.ask (weighing.weigh w)
    return [if ← Run.ofExcept (weighing.atLeast first second) then v else w]
  | component => do
    if let some text ← Run.ofExcept (limit.exceededBy component.length) then
      Run.write (.emit .warning (sizeWarning text number component.length))
    Run.write (.component number component.length .exhaustive)
    Exhaustive.find labels component conflict weighing

/-- The selection from a graph. -/
def findInGraph (labels : Labels τ α φ) (limit : SizeLimit) (g : Graph τ α)
    (weighing : Weighing τ α ω φ) : Run τ (List α) := do
  if g.size < 2 then
    return g.vertices
  Run.write (.openSection
    ("Maximum weight independent set over " ++ integerText g.size ++ " vertices"))
  Run.journalled do
    let names ← Run.ask (g.vertices.mapM labels.vertex)
    Run.write (.matrix "Conflicts" names g.rows)
  let selections ← g.components.zipIdx.mapM fun (component, number) =>
    select labels limit g.adjacent weighing number component
  let selection := selections.flatten
  let text ← Run.ask (labels.selection selection)
  Run.write (.result "Selection" text)
  Run.write .closeSection
  return selection

/-- The selection from the different values of a list.  A single value is returned without a
question. -/
def find (labels : Labels τ α φ) (limit : SizeLimit) (vertices : List α)
    (conflict : α → α → Call τ Bool) (weighing : Weighing τ α ω φ) : Run τ (List α) := do
  let values := vertices.eraseDups
  if values.length < 2 then
    return values
  let g ← Run.ask (Graph.build values conflict)
  findInGraph labels limit g weighing

end ByComponent

end Loadout
