import Loadout.Proofs.Graph.Steps

/-!
# Filling, and where it stops

A filling goes on until a question fails, or a cell or a count has no place.  Whatever the relation
is, and whatever its caller remembers, what has been stored by then is known exactly: each cell that
was written holds the answer to the question about it, each count that was stored is the number of
set cells of its row, and everything else is as it was, `Filling.exact_filling`.
-/

namespace Loadout.Sheet

variable {τ α β : Type}

namespace Filling

variable {δ κ : Type} [Grid β] [NatCast κ] {f : Filling τ α β δ κ}
variable {steps done : List Step} {i j : Nat} {left right : α}

/-- A cell is asked for and written. -/
theorem performs_fillCell (hsteps : steps.filter Step.isCell = Step.cells f.values.length)
    (h : done ++ [.cell i j] <+: steps) (hi : f.values[i]? = some left)
    (hj : f.values[j]? = some right) :
    f.agenda.Performs (fillCell f.adjacent i j left right) done [.cell i j]
      (· = f.isSet i j) := by
  have hanswer := answer_eq hsteps h hi hj
  have hconsult : f.consult (done ++ [.cell i j]) = _ := consult_append_cell hi hj
  rintro s rfl
  cases hc : askFor f.adjacent i j left right (f.consult done) with
  | mk result t =>
    rw [hc] at hanswer hconsult
    have hask : Sheet.ask (askFor f.adjacent i j left right) (f.sheet done) =
        (result, { f.sheet done with caller := t }) := by
      simp only [Sheet.ask, Call.zoom, sheet, hc]
    rw [fillCell, Call.bind_apply, hask]
    cases result with
    | error e =>
      have hfault : f.fault (.cell i j) = some e := by rw [fault, hanswer]
      refine ⟨[], .cell i j, .single hfault, ?_⟩
      change _ = f.stopped (done ++ [.cell i j])
      rw [stopped, List.dropLast_concat, hconsult]
    | ok b =>
      have hset : f.isSet i j = b := by rw [isSet, hanswer]
      have hput := f.storage.put_eq (f.written done) i j b
      rw [hasCell_written, lengths_written] at hput
      by_cases hcell : hasCell f.rows i j = true
      · have hfault : f.fault (.cell i j) = none := by simp [fault, hanswer, hcell]
        have hwritten : (putCell i j b : Call (Sheet β (Array κ) τ) Unit)
            { f.sheet done with caller := t } = (.ok (), f.sheet (done ++ [.cell i j])) := by
          rw [if_pos hcell, ← hset, ← written_append_cell] at hput
          simp only [putCell, Call.zoom, sheet, ← hset, hput, tallied_append_cell, hconsult]
        simp only [Call.bind_apply, hwritten, Call.pure_apply]
        refine ⟨fun step hstep ↦ ?_, hset.symm, rfl⟩
        rw [List.mem_singleton.mp hstep]
        exact hfault
      · have hfault : f.fault (.cell i j) =
            some (f.storage.missing (f.rows.map List.length) i j) := by
          simp [fault, hanswer, hcell]
        have hrefused : (putCell i j b : Call (Sheet β (Array κ) τ) Unit)
            { f.sheet done with caller := t } =
              (.error (f.storage.missing (f.rows.map List.length) i j),
                { f.sheet done with caller := t }) := by
          rw [if_neg hcell] at hput
          simp only [putCell, Call.zoom, sheet, hput]
        simp only [Call.bind_apply, hrefused]
        refine ⟨[], .cell i j, .single hfault, ?_⟩
        change _ = f.stopped (done ++ [.cell i j])
        rw [stopped, List.dropLast_concat, hconsult]

/-- The count of a row is stored. -/
theorem performs_putCount (f : Filling τ α β δ κ) (done : List Step) (i : Nat) :
    f.agenda.Performs (putCount i (f.setInRow i)) done [.count i] (fun _ ↦ True) := by
  rintro s rfl
  have hsize : (f.tallied done).size = f.counts.size := by simp [tallied]
  by_cases hi : i < f.counts.size
  · have hfault : f.fault (.count i) = none := if_pos hi
    have hput : putCount i (f.setInRow i) (f.sheet done) =
        (.ok (), f.sheet (done ++ [.count i])) := by
      simp only [putCount, Call.zoom, Tally.put, sheet, hsize, hi, if_true, tallied_append_count,
        written_append_count, consult_append_count]
    rw [hput]
    refine ⟨fun step hstep ↦ ?_, trivial, rfl⟩
    rw [List.mem_singleton.mp hstep]
    exact hfault
  · have hfault : f.fault (.count i) = some (.outOfBounds i f.counts.size) := if_neg hi
    have hput : putCount i (f.setInRow i) (f.sheet done) =
        (.error (.outOfBounds i f.counts.size), f.sheet done) := by
      simp only [putCount, Call.zoom, Tally.put, sheet, hsize, hi, if_false]
    rw [hput]
    refine ⟨[], .count i, .single hfault, ?_⟩
    change _ = f.stopped (done ++ [.count i])
    rw [stopped, List.dropLast_concat, consult_append_count]
    rfl

theorem append_begins_flatMap {α β : Type} {xs before after : List α} {x : α} {g : α → List β}
    {ys : List β} (hxs : xs = before ++ x :: after) (hys : ys <+: g x) :
    before.flatMap g ++ ys <+: xs.flatMap g := by
  rw [hxs, List.flatMap_append, List.flatMap_cons]
  exact (List.prefix_append_right_inj _).mpr (hys.trans (List.prefix_append _ _))

theorem map_snd_zipIdx (values : List α) :
    values.zipIdx.map (·.2) = List.range values.length := by
  rw [List.zipIdx_map_snd, List.range_eq_range']

/-- A row of cells is filled, and its set cells are counted. -/
theorem performs_row (hsteps : steps.filter Step.isCell = Step.cells f.values.length)
    (h : done ++ Step.row f.values.length i <+: steps) (hi : f.values[i]? = some left) :
    f.agenda.Performs (fillRow f.adjacent i left f.values.zipIdx 0) done
      (Step.row f.values.length i) (· = f.setInRow i) := by
  have hrow : Step.row f.values.length i = f.values.zipIdx.flatMap fun r ↦ [.cell i r.2] := by
    rw [Step.row, ← map_snd_zipIdx, List.map_map, List.map_eq_flatMap]
    rfl
  have hcount : f.setInRow i = 0 + f.values.zipIdx.countP fun r ↦ f.isSet i r.2 := by
    rw [setInRow, ← map_snd_zipIdx, List.countP_map, Nat.zero_add]
    rfl
  rw [hrow] at h ⊢
  rw [hcount]
  refine performs_fillRow fun before right j after hcells ↦ ?_
  have hj : (right, j) ∈ f.values.zipIdx := hcells ▸ List.mem_append_right _ List.mem_cons_self
  refine performs_fillCell hsteps (List.IsPrefix.trans ?_ h) hi
    (List.mem_zipIdx_iff_getElem?.mp hj)
  rw [List.append_assoc]
  exact (List.prefix_append_right_inj done).mpr (append_begins_flatMap hcells List.prefix_rfl)

/-- Rows are filled, and something is done with their counts. -/
theorem performs_rows {finish : Nat → Nat → Call (Sheet β (Array κ) τ) Unit}
    {finishing : Nat → List Step}
    (hfinish : ∀ done i, f.agenda.Performs (finish i (f.setInRow i)) done (finishing i)
      (fun _ ↦ True))
    (hsteps : ((List.range f.values.length).flatMap fun i ↦
      Step.row f.values.length i ++ finishing i).filter Step.isCell = Step.cells f.values.length) :
    f.agenda.Performs (fillRows f.adjacent finish f.values.zipIdx f.values.zipIdx) []
      ((List.range f.values.length).flatMap fun i ↦ Step.row f.values.length i ++ finishing i)
      (fun _ ↦ True) := by
  rw [← map_snd_zipIdx, List.flatMap_map] at hsteps ⊢
  refine performs_fillRows fun before left i after hrows ↦ ?_
  have hi : (left, i) ∈ f.values.zipIdx := hrows ▸ List.mem_append_right _ List.mem_cons_self
  refine (performs_row hsteps ?_ (List.mem_zipIdx_iff_getElem?.mp hi)).bind ?_
  · exact append_begins_flatMap hrows (List.prefix_append _ _)
  · rintro count rfl -
    exact hfinish _ i

theorem performs_fill (f : Filling τ α β δ κ) :
    f.agenda.Performs (Sheet.fill f.adjacent f.values) [] (Step.cells f.values.length)
      (fun _ ↦ True) := by
  have hsteps : Step.cells f.values.length =
      (List.range f.values.length).flatMap fun i ↦ Step.row f.values.length i ++ [] := by
    simp only [List.append_nil, Step.cells]
  have hcells := Step.filter_cells f.values.length
  rw [hsteps] at hcells ⊢
  exact performs_rows (fun _ _ ↦ .pure trivial) (hcells.trans hsteps.symm)

theorem performs_fillWithCounts (f : Filling τ α β δ κ) :
    f.agenda.Performs (Sheet.fillWithCounts f.adjacent f.values) []
      (Step.countedCells f.values.length) (fun _ ↦ True) :=
  performs_rows f.performs_putCount (Step.filter_countedCells _)

/-! ## How a filling ends -/

/-- Either all of some steps have been performed, or a filling has stopped at the first of them that
is at fault. -/
def Ends (f : Filling τ α β δ κ) (steps : List Step)
    (run : Except Failure Unit × Sheet β (Array κ) τ) : Prop :=
  (∀ step ∈ steps, f.fault step = none) ∧ run = (.ok (), f.sheet steps) ∨
    ∃ done step e, StopsAt f.fault steps done step e ∧ run = (.error e, f.stopped (done ++ [step]))

theorem ends_of_performs {call : Call (Sheet β (Array κ) τ) Unit}
    (h : f.agenda.Performs call [] steps (fun _ ↦ True)) :
    f.Ends steps (call ⟨f.storage.ofRows f.rows, f.counts, f.caller⟩) := by
  have hrun := h _ (sheet_nil f).symm
  cases hc : call ⟨f.storage.ofRows f.rows, f.counts, f.caller⟩ with
  | mk result s =>
    rw [hc] at hrun
    cases result with
    | ok _ =>
      obtain ⟨hfine, -, hs⟩ := hrun
      exact .inl ⟨hfine, congrArg _ hs⟩
    | error e =>
      obtain ⟨done, step, hstop, hs⟩ := hrun
      exact .inr ⟨done, step, e, hstop, congrArg _ hs⟩

/-- What is true of every filling, wherever it stops. -/
structure Exact (f : Filling τ α β δ κ) : Prop where
  fill : f.Ends (Step.cells f.values.length)
    (Sheet.fill f.adjacent f.values ⟨f.storage.ofRows f.rows, f.counts, f.caller⟩)
  fillWithCounts : f.Ends (Step.countedCells f.values.length)
    (Sheet.fillWithCounts f.adjacent f.values ⟨f.storage.ofRows f.rows, f.counts, f.caller⟩)
  /-- If nothing stops it, the same cells are written without counts. -/
  alike : ∀ s, Sheet.fillWithCounts f.adjacent f.values
      ⟨f.storage.ofRows f.rows, f.counts, f.caller⟩ = (.ok (), s) →
    Sheet.fill f.adjacent f.values ⟨f.storage.ofRows f.rows, f.counts, f.caller⟩ =
      (.ok (), { s with counts := f.counts })
  /-- A question fails in its own way, and a missing place is out of range. -/
  family : ∀ step e, f.fault step = some e →
    e.family = .index ∨ ∃ i j, step = .cell i j ∧ f.answer i j = .error e
  /-- The answer for a cell is that for its values, if nothing else matters to the relation. -/
  answer : ∀ answers : α → α → Except Failure Bool,
    (∀ a b s, (f.adjacent a b s).1 = answers a b) → ∀ i j left right,
      f.values[i]? = some left → f.values[j]? = some right →
        f.answer i j = if i = j then .ok false else answers left right

/-- It is true whatever the storage is. -/
theorem Exact.of_storage (f : Filling τ α β δ κ) : f.Exact where
  fill := ends_of_performs f.performs_fill
  fillWithCounts := ends_of_performs f.performs_fillWithCounts
  alike s hs := by
    have hcounted := ends_of_performs f.performs_fillWithCounts
    rw [hs] at hcounted
    rcases hcounted with ⟨hfine, hsheet⟩ | ⟨_, _, _, _, hsheet⟩
    · rcases ends_of_performs f.performs_fill with ⟨-, hrun⟩ | ⟨done, step, e, hstop, -⟩
      · rw [hrun, (Prod.mk.inj hsheet).2, sheet_cells]
      · have hmem : step ∈ Step.cells f.values.length := hstop.begins.subset (by simp)
        rw [← Step.filter_countedCells] at hmem
        have hnone := hfine step (List.mem_filter.mp hmem).1
        have hsome : f.fault step = some e := hstop.fault_eq
        rw [hnone] at hsome
        cases hsome
    · cases (Prod.mk.inj hsheet).1
  family _ _ := family_of_fault
  answer _ h _ _ _ _ := answer_of_answers h

/-- Tables and nested lists are filled, and counts are stored, up to the first question that fails
and the first place that is missing, and nothing else is done. -/
theorem exact_filling (values : List α) (adjacent : α → α → Call τ Bool) (counts : Array κ)
    (caller : τ) :
    (∀ rows, Exact ⟨.table, rows, counts, values, adjacent, caller⟩) ∧
      ∀ rows, Exact ⟨.nested, rows, counts, values, adjacent, caller⟩ :=
  ⟨fun rows ↦ .of_storage ⟨.table, rows, counts, values, adjacent, caller⟩,
    fun rows ↦ .of_storage ⟨.nested, rows, counts, values, adjacent, caller⟩⟩

/-- The second row is too short: it is filled as far as it goes, and its count is not stored. -/
example :
    Sheet.fillWithCounts (fun a b : Nat ↦ (pure (a < b) : Call Unit Bool)) [1, 2]
        ⟨#[#[true, false, true], #[true]], #[7, 8, 9], ()⟩ =
      (.error (.outOfBounds 1 1), ⟨#[#[false, true, true], #[false]], #[1, 8, 9], ()⟩) := by
  rfl

end Filling

end Loadout.Sheet
