import Loadout.Proofs.Graph.RowByRow
import Loadout.Proofs.Graph.Storage
import Mathlib.Data.List.Nodup
import Mathlib.Data.List.TakeWhile

/-!
# The steps of a filling

Storage is filled cell by cell, row by row, and the count of a row is stored after its cells.  A
`Filling` is all that is given to begin with; what a sheet holds after some of the steps is a closed
expression of that, `Filling.sheet`, and one lemma for each kind of step says what it adds.
-/

namespace Loadout.Sheet

/-- A step in filling storage. -/
inductive Step
  | cell (i j : Nat)
  | count (i : Nat)
deriving DecidableEq

namespace Step

def isCell : Step → Bool
  | cell .. => true
  | count _ => false

/-- The cells of one row of `n`. -/
def row (n i : Nat) : List Step :=
  (List.range n).map (cell i)

/-- The cells of `n` rows of `n`, row by row. -/
def cells (n : Nat) : List Step :=
  (List.range n).flatMap (row n)

/-- The same, each row being followed by its count. -/
def countedCells (n : Nat) : List Step :=
  (List.range n).flatMap fun i ↦ row n i ++ [count i]

variable {n i j : Nat} {step : Step}

theorem mem_cells : step ∈ cells n ↔ ∃ i j, i < n ∧ j < n ∧ step = cell i j := by
  simp only [cells, row, List.mem_flatMap, List.mem_map, List.mem_range]
  constructor
  · rintro ⟨i, hi, j, hj, rfl⟩
    exact ⟨i, j, hi, hj, rfl⟩
  · rintro ⟨i, j, hi, hj, rfl⟩
    exact ⟨i, hi, j, hj, rfl⟩

theorem nodup_cells (n : Nat) : (cells n).Nodup := by
  refine List.nodup_flatMap.mpr ⟨fun i _ ↦ ?_, ?_⟩
  · exact List.nodup_range.map fun a b hab ↦ (cell.inj hab).2
  · refine List.nodup_range.imp fun {a b} hab ↦ ?_
    simp only [Function.onFun, row, List.disjoint_left, List.mem_map]
    rintro step ⟨c, -, rfl⟩ ⟨d, -, hd⟩
    exact hab (cell.inj hd).1.symm

theorem filter_cells (n : Nat) : (cells n).filter isCell = cells n := by
  refine List.filter_eq_self.mpr fun step hstep ↦ ?_
  obtain ⟨i, j, -, -, rfl⟩ := mem_cells.mp hstep
  rfl

theorem filter_countedCells (n : Nat) : (countedCells n).filter isCell = cells n := by
  have hrow : ∀ i, (row n i ++ [count i]).filter isCell = row n i := by
    intro i
    rw [List.filter_append, List.filter_eq_self.mpr]
    · exact List.append_nil _
    · intro step hstep
      obtain ⟨j, -, rfl⟩ := List.mem_map.mp hstep
      rfl
  simp only [countedCells, cells, List.filter_flatMap, hrow]

/-- The cells before a cell. -/
def before (n i j : Nat) : List Step :=
  (cells n).takeWhile (· ≠ cell i j)

/-- When it is the turn of a cell, the cells before it have been written. -/
theorem filter_eq_before {steps done : List Step} (hsteps : steps.filter isCell = cells n)
    (h : done ++ [cell i j] <+: steps) : done.filter isCell = before n i j := by
  obtain ⟨rest, rfl⟩ := h
  have hcells : done.filter isCell ++ cell i j :: rest.filter isCell = cells n := by
    rw [← hsteps, List.append_assoc, List.filter_append, List.filter_append]
    rfl
  have hnodup := nodup_cells n
  rw [← hcells] at hnodup
  rw [before, ← hcells, List.takeWhile_append_of_pos, List.takeWhile_cons_of_neg (by simp),
    List.append_nil]
  intro step hstep
  have hne : step ≠ cell i j := (List.nodup_append.mp hnodup).2.2 step hstep _ List.mem_cons_self
  exact decide_eq_true hne

end Step

/-- What a filling is given: storage with its cells in rows, counts, values with a relation between
them, and the state of the caller who is asked. -/
structure Filling (τ α β δ κ : Type) [Grid β] where
  storage : Storage β δ
  rows : List (List δ)
  counts : Array κ
  values : List α
  adjacent : α → α → Call τ Bool
  caller : τ

namespace Filling

section Cells

variable {τ α β δ κ : Type} [Grid β] (f : Filling τ α β δ κ)

/-- What is asked in a step: nothing on the diagonal, and nothing for a count. -/
def question? : Step → Option (α × α)
  | .cell i j =>
    if i = j then none
    else do return (← f.values[i]?, ← f.values[j]?)
  | .count _ => none

/-- The state of the caller after some steps: each question is asked once, and in order. -/
def consult (steps : List Step) : τ :=
  (steps.filterMap f.question?).foldl (fun s q ↦ (f.adjacent q.1 q.2 s).2) f.caller

/-- The answer for a cell when its turn comes. -/
def answer (i j : Nat) : Except Failure Bool :=
  match f.question? (.cell i j) with
  | some (a, b) => (f.adjacent a b (f.consult (Step.before f.values.length i j))).1
  | none => .ok false

/-- Whether a cell is set when it is written. -/
def isSet (i j : Nat) : Bool :=
  match f.answer i j with
  | .ok b => b
  | .error _ => false

/-- The number of the cells of a row that are set. -/
def setInRow (i : Nat) : Nat :=
  (List.range f.values.length).countP (f.isSet i)

/-- What is wrong with a step: a question may fail, and a cell or a count may have no place. -/
def fault : Step → Option Failure
  | .cell i j =>
    match f.answer i j with
    | .error e => some e
    | .ok _ =>
      if hasCell f.rows i j then none else some (f.storage.missing (f.rows.map List.length) i j)
  | .count i => if i < f.counts.size then none else some (.outOfBounds i f.counts.size)

/-- The rows after some steps: cells that have been written hold the answers, and the others what
they held before. -/
def written (steps : List Step) : List (List δ) :=
  f.rows.mapIdx fun i row ↦ row.mapIdx fun j x ↦
    if .cell i j ∈ steps then f.storage.ofBool (f.isSet i j) else x

variable {done : List Step} {i j : Nat}

theorem written_nil : f.written [] = f.rows := by
  refine List.ext_getElem (by simp [written]) fun i hi hi' ↦ ?_
  refine List.ext_getElem (by simp [written]) fun j hj hj' ↦ ?_
  simp [written]

theorem lengths_written (steps : List Step) :
    (f.written steps).map List.length = f.rows.map List.length := by
  refine List.ext_getElem (by simp [written]) fun i hi hi' ↦ ?_
  simp [written]

theorem hasCell_written (steps : List Step) (i j : Nat) :
    hasCell (f.written steps) i j = hasCell f.rows i j := by
  simp only [hasCell, written, List.getElem?_mapIdx, Option.any_map]
  congr 1
  funext row
  simp

theorem written_append_cell (done : List Step) (i j : Nat) :
    f.written (done ++ [.cell i j]) =
      (f.written done).modify i (·.set j (f.storage.ofBool (f.isSet i j))) := by
  refine List.ext_getElem (by simp [written]) fun a ha ha' ↦ ?_
  simp only [written, List.getElem_mapIdx, List.getElem_modify]
  by_cases hia : i = a
  · subst hia
    refine List.ext_getElem (by simp) fun c hc hc' ↦ ?_
    simp only [List.getElem_mapIdx, if_true, List.getElem_set]
    by_cases hjc : j = c
    · subst hjc
      simp
    · simp [hjc, Ne.symm hjc]
  · simp [hia, Ne.symm hia]

theorem written_append_count (done : List Step) (i : Nat) :
    f.written (done ++ [.count i]) = f.written done := by
  simp [written]

variable {f} {steps : List Step} {left right : α}

theorem consult_filter (f : Filling τ α β δ κ) (steps : List Step) :
    f.consult (steps.filter Step.isCell) = f.consult steps := by
  have hfilter : (steps.filter Step.isCell).filterMap f.question? =
      steps.filterMap f.question? := by
    rw [List.filterMap_filter]
    refine List.filterMap_congr fun step _ ↦ ?_
    cases step with
    | cell i j => rfl
    | count i => rfl
  rw [consult, hfilter, consult]

theorem answer_eq (hsteps : steps.filter Step.isCell = Step.cells f.values.length)
    (h : done ++ [.cell i j] <+: steps) (hi : f.values[i]? = some left)
    (hj : f.values[j]? = some right) :
    f.answer i j = (askFor f.adjacent i j left right (f.consult done)).1 := by
  rw [answer, ← Step.filter_eq_before hsteps h, consult_filter, askFor]
  by_cases hij : i = j
  · simp [question?, hij]
  · simp [question?, hij, hi, hj]

theorem consult_append_cell (hi : f.values[i]? = some left) (hj : f.values[j]? = some right) :
    f.consult (done ++ [.cell i j]) = (askFor f.adjacent i j left right (f.consult done)).2 := by
  rw [consult, List.filterMap_append, List.foldl_append, ← consult, askFor]
  by_cases hij : i = j
  · simp [question?, hij]
  · simp [question?, hij, hi, hj]

theorem consult_append_count : f.consult (done ++ [.count i]) = f.consult done := by
  rw [consult, List.filterMap_append, List.foldl_append, ← consult]
  rfl

/-- If only the values matter to the relation, the answer for a cell is that for its values. -/
theorem answer_of_answers {answers : α → α → Except Failure Bool}
    (h : ∀ a b s, (f.adjacent a b s).1 = answers a b) (hi : f.values[i]? = some left)
    (hj : f.values[j]? = some right) :
    f.answer i j = if i = j then .ok false else answers left right := by
  by_cases hij : i = j
  · simp [answer, question?, hij]
  · simp [answer, question?, hij, hi, hj, h]

/-- A missing place is out of range. -/
theorem family_of_fault {e : Failure} {step : Step} (h : f.fault step = some e) :
    e.family = .index ∨ ∃ i j, step = .cell i j ∧ f.answer i j = .error e := by
  cases step with
  | cell i j =>
    simp only [fault] at h
    split at h
    next hanswer =>
      cases h
      exact .inr ⟨i, j, rfl, hanswer⟩
    · split at h
      · cases h
      · cases h
        exact .inl (f.storage.missing_family _ i j)
  | count i =>
    simp only [fault] at h
    split at h
    · cases h
    · cases h
      exact .inl rfl

end Cells

section Counts

variable {τ α β δ κ : Type} [Grid β] [NatCast κ] (f : Filling τ α β δ κ)

/-- The counts after some steps. -/
def tallied (steps : List Step) : Array κ :=
  f.counts.mapIdx fun i count ↦ if .count i ∈ steps then (f.setInRow i : κ) else count

theorem tallied_append_cell (done : List Step) (i j : Nat) :
    f.tallied (done ++ [.cell i j]) = f.tallied done := by
  simp [tallied]

theorem tallied_append_count (done : List Step) (i : Nat) :
    f.tallied (done ++ [.count i]) = (f.tallied done).setIfInBounds i (f.setInRow i : κ) := by
  refine Array.ext (by simp [tallied]) fun a ha ha' ↦ ?_
  by_cases hia : i = a
  · subst hia
    simp [tallied]
  · have hsize : a < (f.tallied done).size := by simpa using ha'
    rw [Array.getElem_setIfInBounds_ne hsize hia]
    simp [tallied, Ne.symm hia]

/-- The sheet after some steps. -/
def sheet (steps : List Step) : Sheet β (Array κ) τ :=
  ⟨f.storage.ofRows (f.written steps), f.tallied steps, f.consult steps⟩

theorem sheet_nil : f.sheet [] = ⟨f.storage.ofRows f.rows, f.counts, f.caller⟩ := by
  have htallied : f.tallied [] = f.counts := by
    refine Array.ext (by simp [tallied]) fun i hi hi' ↦ ?_
    simp [tallied]
  rw [sheet, written_nil, htallied]
  rfl

/-- The sheet at the end of some steps of which the last one was at fault: it has asked its
question, but has stored nothing. -/
def stopped (steps : List Step) : Sheet β (Array κ) τ :=
  { f.sheet steps.dropLast with caller := f.consult steps }

def agenda : Agenda (Sheet β (Array κ) τ) Step where
  fault := f.fault
  after steps s := s = f.sheet steps
  stopped steps s := s = f.stopped steps

/-- Whether counts are stored or not, the same is asked and the same cells are written. -/
theorem sheet_cells (f : Filling τ α β δ κ) (n : Nat) :
    f.sheet (Step.cells n) = { f.sheet (Step.countedCells n) with counts := f.counts } := by
  have hwritten : f.written (Step.cells n) = f.written (Step.countedCells n) := by
    simp [written, ← Step.filter_countedCells n, List.mem_filter, Step.isCell]
  have htallied : f.tallied (Step.cells n) = f.counts := by
    refine Array.ext (by simp [tallied]) fun i hi hi' ↦ ?_
    simp [tallied, Step.mem_cells]
  have hconsult : f.consult (Step.cells n) = f.consult (Step.countedCells n) := by
    rw [← Step.filter_countedCells, consult_filter]
  rw [sheet, hwritten, htallied, hconsult, sheet]

end Counts

end Filling

end Loadout.Sheet
