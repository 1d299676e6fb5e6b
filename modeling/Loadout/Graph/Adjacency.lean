import Loadout.Call

/-! # Adjacency tables

The table of a relation on a list of values: the cell in row `i` and column `j` tells whether the
value at `i` is adjacent to the value at `j`.  Cells are asked for row by row and stored one by one,
and no value is adjacent to itself, so nothing is asked about the diagonal.

The storage may turn out to be too small.  Then everything that was stored before stays stored.
-/

namespace Loadout

/-- Storage for the cells of a table. -/
class Grid (β : Type) where
  put : (row column : Nat) → Bool → Call β Unit

/-- Storage for one number per row. -/
class Tally (γ : Type) where
  put : (row count : Nat) → Call γ Unit

/-- A table in memory, as rows of cells. -/
abbrev Table := Array (Array Bool)

namespace Table

/-- A table of the given size in which no cell is set. -/
def blank (size : Nat) : Table :=
  Array.replicate size (Array.replicate size false)

/-- A cell of a table; there is nothing outside of it. -/
def cell (t : Table) (i j : Nat) : Bool :=
  (t.getD i #[]).getD j false

/-- The columns that are set in a row, in ascending order. -/
def columns (t : Table) (i : Nat) : List Nat :=
  (List.range (t.getD i #[]).size).filter (t.cell i)

instance : Grid Table where
  put i j b := fun t =>
    if i < t.size then
      let columns := (t.getD i #[]).size
      if j < columns then (.ok (), t.modify i fun row => row.setIfInBounds j b)
      else (.error (.outOfBounds j columns), t)
    else (.error (.outOfBounds i t.size), t)

end Table

instance {κ : Type} [NatCast κ] : Tally (Array κ) where
  put i n := fun counts =>
    if i < counts.size then (.ok (), counts.setIfInBounds i n)
    else (.error (.outOfBounds i counts.size), counts)

/-- A table that is being filled, beside the state of the caller who is asked. -/
structure Sheet (β γ τ : Type) where
  grid : β
  counts : γ
  caller : τ

namespace Sheet

variable {β γ τ α : Type}

def ask (call : Call τ α) : Call (Sheet β γ τ) α :=
  Call.zoom (fun ⟨grid, counts, caller⟩ => (caller, fun caller => ⟨grid, counts, caller⟩)) call

def putCell [Grid β] (i j : Nat) (b : Bool) : Call (Sheet β γ τ) Unit :=
  Call.zoom (fun ⟨grid, counts, caller⟩ => (grid, fun grid => ⟨grid, counts, caller⟩))
    (Grid.put i j b)

def putCount [Tally γ] (i n : Nat) : Call (Sheet β γ τ) Unit :=
  Call.zoom (fun ⟨grid, counts, caller⟩ => (counts, fun counts => ⟨grid, counts, caller⟩))
    (Tally.put i n)

/-- Fill the row of the value `left` at `i`, and answer how many cells of it are set, given that
number so far. -/
def fillRow [Grid β] (adjacent : α → α → Call τ Bool) (i : Nat) (left : α) :
    List (α × Nat) → Nat → Call (Sheet β γ τ) Nat
  | [], count => pure count
  | (right, j) :: rest, count => do
    let b ← if i = j then pure false else ask (adjacent left right)
    putCell i j b
    fillRow adjacent i left rest (if b then count + 1 else count)

/-- Fill the rows of a list of placed values, and finish each with its place and its count. -/
def fillRows [Grid β] (adjacent : α → α → Call τ Bool)
    (finish : Nat → Nat → Call (Sheet β γ τ) Unit) (values : List (α × Nat)) :
    List (α × Nat) → Call (Sheet β γ τ) Unit
  | [] => pure ()
  | (left, i) :: rest => do
    let count ← fillRow adjacent i left values 0
    finish i count
    fillRows adjacent finish values rest

/-- Fill the table of a relation. -/
def fill [Grid β] (adjacent : α → α → Call τ Bool) (values : List α) : Call (Sheet β γ τ) Unit :=
  fillRows adjacent (fun _ _ => pure ()) values.zipIdx values.zipIdx

/-- Fill the table of a relation, and store the number of set cells of each row. -/
def fillWithCounts [Grid β] [Tally γ] (adjacent : α → α → Call τ Bool) (values : List α) :
    Call (Sheet β γ τ) Unit :=
  fillRows adjacent putCount values.zipIdx values.zipIdx

end Sheet

/-- Work on a sheet of one's own beside the caller, and hand over what it holds in the end. -/
def Call.onSheet {β γ τ : Type} (grid : β) (counts : γ) (work : Call (Sheet β γ τ) Unit) :
    Call τ (β × γ) :=
  fun s =>
    match work { grid, counts, caller := s } with
    | (.ok (), sheet) => (.ok (sheet.grid, sheet.counts), sheet.caller)
    | (.error e, sheet) => (.error e, sheet.caller)

/-- The adjacency table of a list of values. -/
def adjacencyTable {τ α : Type} (adjacent : α → α → Call τ Bool) (values : List α) :
    Call τ Table :=
  Prod.fst <$> Call.onSheet (Table.blank values.length) () (Sheet.fill adjacent values)

end Loadout
