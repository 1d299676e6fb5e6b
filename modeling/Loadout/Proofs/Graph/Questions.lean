import Loadout.Proofs.Graph.Filling
import Loadout.Proofs.Graph.RowByRow

/-!
# The questions that fill a table

A solver asks its caller questions, and the caller can keep a record of them.  To fill the table of
a relation each value is asked about with each other one, row by row, and nothing else is asked:
`performs_adjacencyTable` and `Graph.performs_build`.
-/

namespace Loadout

/-- What a solver asks its caller. -/
inductive Question (α : Type)
  | conflict (a b : α)
  | weight (a : α)
deriving DecidableEq

/-- The questions about a value at a place with each value at another place. -/
def conflictsOf {α : Type} (values : List α) (l : α × Nat) : List (Question α) :=
  values.zipIdx.flatMap fun r ↦ if l.2 = r.2 then [] else [.conflict l.1 r.1]

/-- The questions about each value of a list with each other one, row by row. -/
def conflicts {α : Type} (values : List α) : List (Question α) :=
  values.zipIdx.flatMap (conflictsOf values)

variable {τ α β γ ι : Type}

/-! ## Records -/

/-- The failure of a result. -/
def failureOf (result : Except Failure β) : Option Failure :=
  match result with
  | .ok _ => none
  | .error e => some e

/-- Steps that leave an entry each in a record that is kept of them. -/
def Agenda.recording (fault : ι → Option Failure) (record : τ → List ι) (before : List ι) :
    Agenda τ ι where
  fault := fault
  after steps s := record s = before ++ steps
  stopped steps s := record s = before ++ steps

/-- A call that always comes to the same, and that is recorded. -/
theorem Agenda.performs_recorded {fault : ι → Option Failure} {record : τ → List ι}
    {before done : List ι} {call : Call τ β} {i : ι} {result : Except Failure β}
    (hresult : ∀ s, (call s).1 = result) (hrecord : ∀ s, record (call s).2 = record s ++ [i])
    (hfault : fault i = failureOf result) :
    (Agenda.recording fault record before).Performs call done [i] (fun b ↦ result = .ok b) := by
  intro s hs
  have hresult := hresult s
  have hrecord := hrecord s
  rw [show record s = before ++ done from hs, List.append_assoc] at hrecord
  cases hc : call s with
  | mk answer t =>
    rw [hc] at hresult hrecord
    subst hresult
    cases answer with
    | ok b =>
      refine ⟨fun k hk ↦ ?_, rfl, hrecord⟩
      rw [List.mem_singleton.mp hk]
      exact hfault
    | error e => exact ⟨[], i, .single hfault, hrecord⟩

/-- What is performed beside a sheet is performed by handing over what it holds in the end. -/
theorem Agenda.Performs.onSheet {A : Agenda τ ι} {done todo : List ι} {grid : β} {counts : γ}
    {work : Call (Sheet β γ τ) Unit} {kept : Sheet β γ τ → Prop}
    (h : (A.within Sheet.caller kept).Performs work done todo (fun _ ↦ True))
    (hkept : ∀ s, kept ⟨grid, counts, s⟩) :
    A.Performs (Call.onSheet grid counts work) done todo (fun _ ↦ True) := by
  refine Call.Triple.onSheet (h.imp (fun _ hs ↦ hs) ?_ fun _ _ he ↦ he) fun s hs ↦ ⟨hkept s, hs⟩
  exact fun _ _ ⟨hfine, _, _, hs⟩ ↦ ⟨hfine, trivial, hs⟩

/-! ## Tables -/

variable {A : Agenda τ (Question α)} {conflict : α → α → Call τ Bool} {p : α → α → Bool}
variable {values : List α} {done : List (Question α)}

namespace Sheet

variable {n i j : Nat} {counted : γ → Prop} {finish : Nat → Nat → Call (Sheet Table γ τ) Unit}

/-- A sheet with a table of a size, and with counts that have a property. -/
def Ready (n : Nat) (counted : γ → Prop) (s : Sheet Table γ τ) : Prop :=
  s.grid.Square n ∧ counted s.counts

/-- A cell is asked about, unless it is on the diagonal. -/
theorem performs_askedCell
    (h : ∀ a b done, A.Performs (conflict a b) done [.conflict a b] (· = p a b))
    (hi : i < n) (hj : j < n) (left right : α) :
    (A.within Sheet.caller (Ready n counted)).Performs (fillCell conflict i j left right) done
      (if i = j then [] else [.conflict left right]) (· = (i != j && p left right)) := by
  have hask : A.Performs (askFor conflict i j left right) done
      (if i = j then [] else [.conflict left right]) (· = (i != j && p left right)) := by
    by_cases hij : i = j
    · simp only [askFor, hij, if_true, bne_self_eq_false, Bool.false_and]
      exact .pure rfl
    · simp only [askFor, hij, if_false, bne_iff_ne.mpr hij, Bool.true_and]
      exact h left right done
  have hput : ∀ b done, (A.within Sheet.caller (Ready n counted)).Performs (putCell i j b) done []
      (fun _ ↦ True) := by
    refine fun b done ↦ .aside ?_
    rintro s ⟨hgrid, hcounts⟩
    refine ⟨(), { s with grid := s.grid.set i j b }, ?_, trivial, ⟨hgrid.set hi, hcounts⟩, rfl⟩
    simp only [putCell, Call.zoom, hgrid.put_eq hi hj]
  have hzoom : (A.within Sheet.caller (Ready n counted)).Performs
      (Sheet.ask (askFor conflict i j left right)) done
      (if i = j then [] else [.conflict left right]) (· = (i != j && p left right)) :=
    hask.zoom (fun _ ↦ rfl) (fun _ _ ↦ rfl) fun _ _ hs ↦ hs
  refine hzoom.bind_nothing fun b hb ↦ ?_
  exact (hput b _).nothing_bind fun _ _ ↦ .pure hb

/-- All cells are asked about, row by row, if nothing is asked to finish a row. -/
theorem performs_conflicts
    (h : ∀ a b done, A.Performs (conflict a b) done [.conflict a b] (· = p a b))
    (hfinish : ∀ i < values.length, ∀ count done,
      (A.within Sheet.caller (Ready values.length counted)).Performs (finish i count) done []
        (fun _ ↦ True)) :
    (A.within Sheet.caller (Ready values.length counted)).Performs
      (fillRows conflict finish values.zipIdx values.zipIdx) done (conflicts values)
      (fun _ ↦ True) := by
  have hplace : ∀ {before after : List (α × Nat)} {a : α} {k : Nat},
      values.zipIdx = before ++ (a, k) :: after → values[k]? = some a := by
    intro before after a k hsplit
    have hmem : (a, k) ∈ values.zipIdx := by simp [hsplit]
    exact List.mem_zipIdx_iff_getElem?.mp hmem
  refine performs_fillRows fun before left i after hl ↦ ?_
  have hi := hplace hl
  have hlt := (List.getElem?_eq_some_iff.mp hi).1
  have hrow : (A.within Sheet.caller (Ready values.length counted)).Performs
      (fillRow conflict i left values.zipIdx 0) (done ++ before.flatMap (conflictsOf values))
      (conflictsOf values (left, i))
      (· = 0 + values.zipIdx.countP fun r ↦ cellOf p values i r.2) := by
    refine performs_fillRow fun before right j after hr ↦ ?_
    have hj := hplace hr
    rw [cellOf_eq hi hj]
    exact performs_askedCell h hlt (List.getElem?_eq_some_iff.mp hj).1 left right
  exact hrow.bind_nothing fun count _ ↦ hfinish i hlt count _

end Sheet

/-- The table of a relation is made by asking about each value with each other one. -/
theorem performs_adjacencyTable
    (h : ∀ a b done, A.Performs (conflict a b) done [.conflict a b] (· = p a b)) :
    A.Performs (adjacencyTable conflict values) done (conflicts values) (fun _ ↦ True) := by
  have hfill : (A.within Sheet.caller (Sheet.Ready values.length fun _ : Unit ↦ True)).Performs
      (Sheet.fill conflict values) done (conflicts values) (fun _ ↦ True) :=
    Sheet.performs_conflicts h fun _ _ _ _ ↦ .pure trivial
  exact .map (hfill.onSheet fun _ ↦ ⟨Table.square_blank _, trivial⟩)

/-- A graph is built by asking about each of the different values with each other one. -/
theorem Graph.performs_build [BEq α]
    (h : ∀ a b done, A.Performs (conflict a b) done [.conflict a b] (· = p a b)) :
    A.Performs (Graph.build values conflict) done (conflicts values.eraseDups)
      (fun _ ↦ True) := by
  have hfinish : ∀ i < values.eraseDups.length, ∀ count done,
      (A.within Sheet.caller (Sheet.Ready values.eraseDups.length fun counts : Array Nat ↦
        counts.size = values.eraseDups.length)).Performs (Sheet.putCount i count) done []
        (fun _ ↦ True) := by
    refine fun i hi count done ↦ .aside ?_
    rintro ⟨t, counts, caller⟩ ⟨hgrid, hcounts⟩
    change counts.size = _ at hcounts
    refine ⟨(), ⟨t, counts.setIfInBounds i count, caller⟩, ?_, trivial, ⟨hgrid, ?_⟩, rfl⟩
    · simp only [Sheet.putCount, Call.zoom, Tally.put, hcounts, hi, if_true]
      rfl
    · change (counts.setIfInBounds i count).size = _
      rw [Array.size_setIfInBounds, hcounts]
  have hfill : (A.within Sheet.caller (Sheet.Ready values.eraseDups.length fun counts : Array Nat ↦
      counts.size = values.eraseDups.length)).Performs
      (Sheet.fillWithCounts conflict values.eraseDups) done (conflicts values.eraseDups)
      (fun _ ↦ True) := Sheet.performs_conflicts h hfinish
  have hsheet : A.Performs (Call.onSheet (Table.blank values.eraseDups.length)
      (Array.replicate values.eraseDups.length 0)
      (Sheet.fillWithCounts conflict values.eraseDups)) done (conflicts values.eraseDups)
      (fun _ ↦ True) :=
    hfill.onSheet fun _ ↦ ⟨Table.square_blank _, Array.size_replicate⟩
  exact hsheet.bind_nothing fun _ _ ↦ .pure trivial

end Loadout
