import Loadout.Graph.Adjacency
import Loadout.Proofs.Agenda
import Loadout.Proofs.Preserving

/-!
# Filling row by row

What each cell does when storage is filled is done by a row, one cell after the other,
`performs_fillRow`, and what each row does by all of them, `performs_fillRows`.  What asking and
writing preserve is preserved by all of it, `preserves_fillRows`.
-/

namespace Loadout.Sheet

variable {τ α β γ ι : Type} [Grid β] {adjacent : α → α → Call τ Bool}

/-- What is asked for a cell: nothing on the diagonal. -/
def askFor (adjacent : α → α → Call τ Bool) (i j : Nat) (left right : α) : Call τ Bool :=
  if i = j then pure false else adjacent left right

/-- A cell is asked for and written. -/
def fillCell (adjacent : α → α → Call τ Bool) (i j : Nat) (left right : α) :
    Call (Sheet β γ τ) Bool := do
  let b ← ask (askFor adjacent i j left right)
  putCell i j b
  return b

theorem fillRow_cons (adjacent : α → α → Call τ Bool) (i j : Nat) (left right : α)
    (rest : List (α × Nat)) (count : Nat) :
    (fillRow adjacent i left ((right, j) :: rest) count : Call (Sheet β γ τ) Nat) =
      fillCell adjacent i j left right >>= fun b ↦
        fillRow adjacent i left rest (if b then count + 1 else count) := by
  have hpure : ask (pure false : Call τ Bool) = (pure false : Call (Sheet β γ τ) Bool) :=
    Call.zoom_pure (fun _ ↦ rfl) false
  simp only [fillRow, fillCell, askFor, bind_assoc, pure_bind]
  split
  · rw [hpure, pure_bind]
  · rfl

/-! ## Agendas -/

section Agendas

variable {A : Agenda (Sheet β γ τ) ι} {done : List ι} {rest : List (α × Nat)}

/-- A row performs the steps of its cells, and counts those that are set. -/
theorem performs_fillRow {i : Nat} {left : α} {cellSteps : α × Nat → List ι} {set : Nat → Bool}
    {count : Nat}
    (hcell : ∀ before right j after, rest = before ++ (right, j) :: after →
      A.Performs (fillCell adjacent i j left right) (done ++ before.flatMap cellSteps)
        (cellSteps (right, j)) (· = set j)) :
    A.Performs (fillRow adjacent i left rest count) done (rest.flatMap cellSteps)
      (· = count + rest.countP fun r ↦ set r.2) := by
  induction rest generalizing done count with
  | nil => exact .pure rfl
  | cons r rest ih =>
    obtain ⟨right, j⟩ := r
    have hfirst := hcell [] right j rest rfl
    rw [List.flatMap_nil, List.append_nil] at hfirst
    rw [fillRow_cons, List.flatMap_cons]
    refine hfirst.bind ?_
    rintro b rfl -
    refine (ih fun before right' j' after hrest ↦ ?_).mono ?_
    · have hnext := hcell ((right, j) :: before) right' j' after (by rw [hrest]; rfl)
      rwa [List.flatMap_cons, ← List.append_assoc] at hnext
    · rintro total rfl
      rw [List.countP_cons]
      split <;> omega

/-- All rows together perform what each of them does when it is filled and finished. -/
theorem performs_fillRows {finish : Nat → Nat → Call (Sheet β γ τ) Unit}
    {values : List (α × Nat)} {rowSteps : α × Nat → List ι}
    (hrow : ∀ before left i after, rest = before ++ (left, i) :: after →
      A.Performs (fillRow adjacent i left values 0 >>= finish i)
        (done ++ before.flatMap rowSteps) (rowSteps (left, i)) (fun _ ↦ True)) :
    A.Performs (fillRows adjacent finish values rest) done (rest.flatMap rowSteps)
      (fun _ ↦ True) := by
  induction rest generalizing done with
  | nil => exact .pure trivial
  | cons l rest ih =>
    obtain ⟨left, i⟩ := l
    have hfirst := hrow [] left i rest rfl
    rw [List.flatMap_nil, List.append_nil] at hfirst
    rw [fillRows, ← bind_assoc, List.flatMap_cons]
    refine hfirst.bind fun _ _ _ ↦ ih fun before left' i' after hrest ↦ ?_
    have hnext := hrow ((left, i) :: before) left' i' after (by rw [hrest]; rfl)
    rwa [List.flatMap_cons, ← List.append_assoc] at hnext

end Agendas

/-! ## Invariants -/

section Invariants

variable {invariant : Sheet β γ τ → Prop} {finish : Nat → Nat → Call (Sheet β γ τ) Unit}

theorem preserves_fillRow
    (hask : ∀ a b, Call.Preserves invariant (ask (adjacent a b) : Call (Sheet β γ τ) Bool))
    (hput : ∀ i j b, Call.Preserves invariant (putCell i j b : Call (Sheet β γ τ) Unit))
    (i : Nat) (left : α) (rest : List (α × Nat)) (count : Nat) :
    Call.Preserves invariant
      (fillRow adjacent i left rest count : Call (Sheet β γ τ) Nat) := by
  induction rest generalizing count with
  | nil => exact .pure count
  | cons r rest ih =>
    obtain ⟨right, j⟩ := r
    simp only [fillRow]
    split
    · exact .bind (.pure false) fun b ↦ (hput i j b).bind fun _ ↦ ih _
    · exact (hask left right).bind fun b ↦ (hput i j b).bind fun _ ↦ ih _

theorem preserves_fillRows
    (hask : ∀ a b, Call.Preserves invariant (ask (adjacent a b) : Call (Sheet β γ τ) Bool))
    (hput : ∀ i j b, Call.Preserves invariant (putCell i j b : Call (Sheet β γ τ) Unit))
    (hfinish : ∀ i count, Call.Preserves invariant (finish i count))
    (values rest : List (α × Nat)) :
    Call.Preserves invariant (fillRows adjacent finish values rest) := by
  induction rest with
  | nil => exact .pure ()
  | cons l rest ih =>
    obtain ⟨left, i⟩ := l
    refine (preserves_fillRow hask hput i left values 0).bind fun count ↦ ?_
    exact (hfinish i count).bind fun _ ↦ ih

end Invariants

end Loadout.Sheet
