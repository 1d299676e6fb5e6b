import Loadout.Graph.Basic
import Loadout.Proofs.Outcome

/-!
# Filling an adjacency table

The table that is filled by asking a relation about every two places is the table of that relation,
`adjacencyTable_ends`, and so is that of a graph, `Graph.build_ends`.  The invariant is that a cell
that has been written holds the answer of the relation: writing another cell does not change it, and
writing it again changes nothing.  A row is finished when all its cells have been written; the
number that it is finished with is how many of them are set, so the counts of a graph are those of
its table.
-/

namespace Loadout

variable {τ α γ : Type}

namespace Table

/-- The table of a function of row and column. -/
def ofFn (n : Nat) (f : Nat → Nat → Bool) : Table :=
  Array.ofFn fun (i : Fin n) ↦ Array.ofFn fun (j : Fin n) ↦ f i j

/-- A table with as many rows as columns. -/
structure Square (n : Nat) (t : Table) : Prop where
  size : t.size = n
  width : ∀ i < n, (t.getD i #[]).size = n

/-- Put a truth value into a cell. -/
def set (t : Table) (i j : Nat) (b : Bool) : Table :=
  t.modify i fun row ↦ row.setIfInBounds j b

variable {n i j : Nat} {b : Bool} {t : Table} {f : Nat → Nat → Bool}

theorem square_blank (n : Nat) : Square n (blank n) where
  size := by simp [blank]
  width i hi := by simp [blank, Array.getD, hi]

theorem square_ofFn (n : Nat) (f : Nat → Nat → Bool) : Square n (ofFn n f) where
  size := by simp [ofFn]
  width i hi := by simp [ofFn, Array.getD, hi]

theorem cell_ofFn (n : Nat) (f : Nat → Nat → Bool) (i j : Nat) :
    (ofFn n f).cell i j = (decide (i < n) && decide (j < n) && f i j) := by
  by_cases hi : i < n <;> by_cases hj : j < n <;> simp [cell, ofFn, Array.getD, hi, hj]

theorem rows_ofFn (n : Nat) (f : Nat → Nat → Bool) :
    (ofFn n f).toList.map Array.toList = (List.range n).map fun i ↦ (List.range n).map (f i) := by
  rw [ofFn]
  refine List.ext_getElem (by simp) fun i hi _ ↦ ?_
  refine List.ext_getElem (by simp) fun j hj _ ↦ ?_
  simp

/-- A square table is determined by its cells. -/
theorem Square.eq_ofFn (h : Square n t) (hcell : ∀ i < n, ∀ j < n, t.cell i j = f i j) :
    t = ofFn n f := by
  refine Array.ext (by simp [ofFn, h.size]) fun i hi hi' ↦ ?_
  have hn : i < n := h.size ▸ hi
  have hrow : t.getD i #[] = t[i] := by simp [Array.getD, hi]
  have hw : t[i].size = n := hrow ▸ h.width i hn
  refine Array.ext (by simp [ofFn, hw]) fun j hj hj' ↦ ?_
  have hc := hcell i hn j (hw ▸ hj)
  rw [cell, hrow] at hc
  simpa [ofFn, Array.getD, hj] using hc

theorem getD_set (hi : i < t.size) (a : Nat) :
    (t.set i j b).getD a #[] =
      if a = i then (t.getD i #[]).setIfInBounds j b else t.getD a #[] := by
  by_cases ha : a < t.size
  · by_cases h : i = a
    · subst h
      simp [set, Array.getD, ha, Array.getElem_modify]
    · simp [set, Array.getD, ha, Array.getElem_modify, h, Ne.symm h]
  · have h : a ≠ i := fun h ↦ ha (h ▸ hi)
    simp [set, Array.getD, ha, h]

theorem Square.set (h : Square n t) (hi : i < n) : Square n (t.set i j b) where
  size := by simp [Table.set, h.size]
  width a ha := by
    rw [getD_set (h.size ▸ hi)]
    split
    · rw [Array.size_setIfInBounds, h.width i hi]
    · exact h.width a ha

theorem getD_setIfInBounds (row : Array Bool) (hj : j < row.size) (c : Nat) :
    (row.setIfInBounds j b).getD c false = if c = j then b else row.getD c false := by
  by_cases hc : c = j
  · subst hc
    simp [Array.getD, hj]
  · by_cases hcs : c < row.size
    · simp [Array.getD, hcs, hc, Ne.symm hc]
    · simp [Array.getD, hcs, hc]

theorem Square.cell_set (h : Square n t) (hi : i < n) (hj : j < n) (a c : Nat) :
    (t.set i j b).cell a c = if a = i ∧ c = j then b else t.cell a c := by
  rw [cell, getD_set (h.size ▸ hi)]
  by_cases ha : a = i
  · subst ha
    rw [if_pos rfl, getD_setIfInBounds _ ((h.width a hi).symm ▸ hj)]
    simp only [true_and, cell]
  · simp only [ha, if_false, false_and, cell]

theorem Square.put_eq (h : Square n t) (hi : i < n) (hj : j < n) :
    Grid.put i j b t = (.ok (), t.set i j b) := by
  have hw := h.width i hi
  simp only [Grid.put, h.size, hi, hw, hj, if_true, Table.set]

/-- A square table whose cells in `done` hold what `target` says. -/
structure Filled (n : Nat) (target : Nat → Nat → Bool) (done : Nat → Nat → Prop) (t : Table) :
    Prop where
  square : Square n t
  agree : ∀ i j, done i j → t.cell i j = target i j

variable {target : Nat → Nat → Bool} {done done' : Nat → Nat → Prop}

theorem Filled.set (h : Filled n target done t) (hi : i < n) (hj : j < n) (hb : b = target i j) :
    Filled n target (fun a c ↦ done a c ∨ a = i ∧ c = j) (t.set i j b) where
  square := h.square.set hi
  agree a c hac := by
    rw [h.square.cell_set hi hj]
    split
    next heq => rw [hb, heq.1, heq.2]
    next hne => exact h.agree a c (hac.resolve_right hne)

theorem Filled.imp (h : Filled n target done t) (himp : ∀ i j, done' i j → done i j) :
    Filled n target done' t :=
  ⟨h.square, fun i j hd ↦ h.agree i j (himp i j hd)⟩

end Table

namespace Sheet

open Call

variable {adjacent : α → α → Call τ Bool} {finish : Nat → Nat → Call (Sheet Table γ τ) Unit}
variable {n : Nat} {target : Nat → Nat → Bool} {done : Nat → Nat → Prop} {counted : γ → Prop}
variable {fails : Failure → Prop}

/-- What is known of a sheet while it is being filled: some cells of its table, and a property of
its counts. -/
def Holds (n : Nat) (target : Nat → Nat → Bool) (counted : γ → Prop) (done : Nat → Nat → Prop)
    (s : Sheet Table γ τ) : Prop :=
  s.grid.Filled n target done ∧ counted s.counts

theorem Holds.imp {done' : Nat → Nat → Prop} {s : Sheet Table γ τ}
    (h : Holds n target counted done s) (himp : ∀ i j, done' i j → done i j) :
    Holds n target counted done' s :=
  ⟨h.1.imp himp, h.2⟩

theorem triple_ask {call : Call τ Bool} {post : Bool → Prop} (h : Ends call post fails) :
    Triple (Holds n target counted done) (Sheet.ask call : Call (Sheet Table γ τ) Bool)
      (fun b s ↦ post b ∧ Holds n target counted done s) (fun e _ ↦ fails e) :=
  Triple.zoom _ (fun _ _ hs ↦ hs) h

theorem triple_putCell {i j : Nat} {b : Bool} (hi : i < n) (hj : j < n) (hb : b = target i j) :
    Triple (Holds n target counted done) (putCell i j b : Call (Sheet Table γ τ) Unit)
      (fun _ ↦ Holds n target counted fun a c ↦ done a c ∨ a = i ∧ c = j) (fun e _ ↦ fails e) := by
  rintro ⟨t, counts, caller⟩ ⟨ht, hc⟩
  simp only [putCell, Call.zoom, ht.square.put_eq hi hj]
  exact ⟨ht.set hi hj hb, hc⟩

/-- What a row of questions must answer for the table of `target` to be filled. -/
def Answers (adjacent : α → α → Call τ Bool) (target : Nat → Nat → Bool) (fails : Failure → Prop)
    (i : Nat) (left : α) (j : Nat) (right : α) : Prop :=
  (i = j → target i j = false) ∧ (i ≠ j → Ends (adjacent left right) (· = target i j) fails)

/-- How many of the cells of a row are set that belong to the given values. -/
def setCells (target : Nat → Nat → Bool) (i : Nat) (values : List (α × Nat)) : Nat :=
  values.countP fun r ↦ target i r.2

theorem triple_fillRow {i : Nat} {left : α} {rest : List (α × Nat)} {count : Nat} (hi : i < n)
    (h : ∀ r ∈ rest, r.2 < n ∧ Answers adjacent target fails i left r.2 r.1) :
    Triple (Holds n target counted done)
      (fillRow adjacent i left rest count : Call (Sheet Table γ τ) Nat)
      (fun total s ↦ total = count + setCells target i rest ∧
        Holds n target counted (fun a c ↦ done a c ∨ a = i ∧ ∃ r ∈ rest, r.2 = c) s)
      (fun e _ ↦ fails e) := by
  induction rest generalizing done count with
  | nil => exact .pure fun s hs ↦ ⟨rfl, hs.imp (by simp)⟩
  | cons r rest ih =>
    obtain ⟨right, j⟩ := r
    obtain ⟨hj, hdiag, hask⟩ := h (right, j) List.mem_cons_self
    have hrest : ∀ b : Bool, Triple (fun s ↦ b = target i j ∧ Holds n target counted done s)
        (putCell i j b >>= fun _ ↦ fillRow adjacent i left rest (if b then count + 1 else count))
        (fun total s ↦ total = count + setCells target i ((right, j) :: rest) ∧
          Holds n target counted
            (fun a c ↦ done a c ∨ a = i ∧ ∃ r ∈ (right, j) :: rest, r.2 = c) s)
        (fun e _ ↦ fails e) := by
      refine fun b ↦ .of_fact fun hb ↦ (triple_putCell hi hj hb).bind fun _ ↦
        (ih fun r hr ↦ h r (List.mem_cons_of_mem _ hr)).imp (fun _ hs ↦ hs)
          (fun total s ⟨htotal, hs⟩ ↦ ⟨?_, hs.imp fun a c hac ↦ ?_⟩) (fun _ _ he ↦ he)
      · rw [htotal, setCells, setCells, List.countP_cons, ← hb]
        cases b
        · rfl
        · exact Nat.add_right_comm count 1 _
      · rcases hac with hd | ⟨rfl, r, hr, rfl⟩
        · exact .inl (.inl hd)
        · rcases List.mem_cons.mp hr with rfl | hr
          · exact .inl (.inr ⟨rfl, rfl⟩)
          · exact .inr ⟨rfl, r, hr, rfl⟩
    simp only [fillRow]
    split
    next hij => exact .bind (.pure fun s hs ↦ ⟨(hdiag hij).symm, hs⟩) hrest
    next hij => exact (triple_ask (hask hij)).bind hrest

/-- Filling rows that are finished with the numbers of their set cells: `tallied` says what is known
of the counts when some rows are finished. -/
theorem triple_fillRows {tallied : (Nat → Prop) → γ → Prop} (done : Nat → Nat → Prop)
    (finished : Nat → Prop) {values rest : List (α × Nat)}
    (hfinish : ∀ i < n, ∀ (done : Nat → Nat → Prop) (finished : Nat → Prop),
      Triple (Holds n target (tallied finished) done) (finish i (setCells target i values))
        (fun _ ↦ Holds n target (tallied fun a ↦ finished a ∨ a = i) done) (fun e _ ↦ fails e))
    (hvalues : ∀ r ∈ values, r.2 < n)
    (hrest : ∀ l ∈ rest, l.2 < n ∧
      ∀ r ∈ values, Answers adjacent target fails l.2 l.1 r.2 r.1) :
    Triple (Holds n target (tallied finished) done) (fillRows adjacent finish values rest)
      (fun _ ↦ Holds n target (tallied fun a ↦ finished a ∨ ∃ l ∈ rest, l.2 = a)
        fun a c ↦ done a c ∨ (∃ l ∈ rest, l.2 = a) ∧ ∃ r ∈ values, r.2 = c)
      (fun e _ ↦ fails e) := by
  induction rest generalizing done finished with
  | nil => exact .pure fun s hs ↦ by simpa using hs
  | cons l rest ih =>
    obtain ⟨left, i⟩ := l
    obtain ⟨hi, hrow⟩ := hrest (left, i) List.mem_cons_self
    have hrows : (fun a ↦ (finished a ∨ a = i) ∨ ∃ l ∈ rest, l.2 = a) =
        fun a ↦ finished a ∨ ∃ l ∈ (left, i) :: rest, l.2 = a := by
      funext a
      simp [or_assoc, eq_comm]
    refine (triple_fillRow hi fun r hr ↦ ⟨hvalues r hr, hrow r hr⟩).bind fun count ↦
      .of_fact fun hcount ↦ ?_
    rw [hcount, Nat.zero_add]
    refine (hfinish i hi _ finished).bind fun _ ↦ ?_
    refine (ih _ _ fun l hl ↦ hrest l (List.mem_cons_of_mem _ hl)).imp (fun _ hs ↦ hs)
      (fun _ s hs ↦ ?_) (fun _ _ he ↦ he)
    rw [hrows] at hs
    refine hs.imp fun a c hac ↦ ?_
    rcases hac with hd | ⟨⟨l, hl, rfl⟩, hc⟩
    · exact .inl (.inl hd)
    · rcases List.mem_cons.mp hl with rfl | hl
      · exact .inl (.inr ⟨rfl, hc⟩)
      · exact .inr ⟨⟨l, hl, rfl⟩, hc⟩

end Sheet

/-- What a sheet is filled with is handed over, beside the state of the caller. -/
theorem Call.Triple.onSheet {β : Type} {grid : β} {counts : γ} {work : Call (Sheet β γ τ) Unit}
    {pre : τ → Prop} {start : Sheet β γ τ → Prop} {post : β × γ → τ → Prop}
    {fails : Failure → τ → Prop}
    (h : Triple start work (fun _ sheet ↦ post (sheet.grid, sheet.counts) sheet.caller)
      (fun e sheet ↦ fails e sheet.caller))
    (hstart : ∀ s, pre s → start ⟨grid, counts, s⟩) :
    Triple pre (Call.onSheet grid counts work) post fails := by
  intro s hs
  have h := h _ (hstart s hs)
  unfold Call.onSheet
  cases hc : work ⟨grid, counts, s⟩ with
  | mk result sheet =>
    rw [hc] at h
    cases result with
    | ok _ => exact h
    | error e => exact h

theorem Call.Ends.onSheet {β : Type} {grid : β} {counts : γ} {work : Call (Sheet β γ τ) Unit}
    {pre : Sheet β γ τ → Prop} {post : β × γ → Prop} {fails : Failure → Prop}
    (h : Triple pre work (fun _ sheet ↦ post (sheet.grid, sheet.counts)) (fun e _ ↦ fails e))
    (hpre : ∀ s, pre ⟨grid, counts, s⟩) : Ends (Call.onSheet grid counts work) post fails :=
  Triple.onSheet h fun s _ ↦ hpre s

/-- Whether the values at two different places of a list are related. -/
def cellOf (p : α → α → Bool) (values : List α) (i j : Nat) : Bool :=
  i != j && match values[i]?, values[j]? with
    | some a, some b => p a b
    | _, _ => false

section Table

open Call

variable {adjacent : α → α → Call τ Bool} {p : α → α → Bool} {values : List α}
variable {fails : Failure → Prop}

theorem cellOf_eq {i j : Nat} {a b : α} (hi : values[i]? = some a) (hj : values[j]? = some b) :
    cellOf p values i j = (i != j && p a b) := by
  simp [cellOf, hi, hj]

/-- The table of a list of values. -/
def tableOf (p : α → α → Bool) (values : List α) : Table :=
  .ofFn values.length (cellOf p values)

/-- How many values of a list the one at a place is related to. -/
def degreeOf (p : α → α → Bool) (values : List α) (i : Nat) : Nat :=
  (List.range values.length).countP (cellOf p values i)

theorem setCells_zipIdx (p : α → α → Bool) (values : List α) (i : Nat) :
    Sheet.setCells (cellOf p values) i values.zipIdx = degreeOf p values i := by
  rw [degreeOf, List.range_eq_range', ← List.zipIdx_map_snd, List.countP_map]
  rfl

theorem ends_onSheet {counts : γ} (tallied : (Nat → Prop) → γ → Prop)
    {finish : Nat → Nat → Call (Sheet Table γ τ) Unit} (hcounts : tallied (fun _ ↦ False) counts)
    (hfinish : ∀ i < values.length, ∀ (done : Nat → Nat → Prop) (finished : Nat → Prop),
      Triple (Sheet.Holds values.length (cellOf p values) (tallied finished) done)
        (finish i (degreeOf p values i))
        (fun _ ↦ Sheet.Holds values.length (cellOf p values)
          (tallied fun a ↦ finished a ∨ a = i) done) (fun e _ ↦ fails e))
    (h : ∀ a ∈ values, ∀ b ∈ values, Ends (adjacent a b) (· = p a b) fails) :
    Ends (Call.onSheet (Table.blank values.length) counts
        (Sheet.fillRows adjacent finish values.zipIdx values.zipIdx))
      (fun r ↦ r.1 = tableOf p values ∧ tallied (· < values.length) r.2) fails := by
  have hplace : ∀ r ∈ values.zipIdx, values[r.2]? = some r.1 := fun r hr ↦
    List.mem_zipIdx_iff_getElem?.mp hr
  have hlt : ∀ r ∈ values.zipIdx, r.2 < values.length := fun r hr ↦
    (List.getElem?_eq_some_iff.mp (hplace r hr)).1
  have hmem : ∀ r ∈ values.zipIdx, r.1 ∈ values := fun r hr ↦
    List.mem_of_getElem? (hplace r hr)
  have hall : ∀ i, (∃ r ∈ values.zipIdx, r.2 = i) ↔ i < values.length := by
    refine fun i ↦ ⟨?_, fun hi ↦ ?_⟩
    · rintro ⟨r, hr, rfl⟩
      exact hlt r hr
    · exact ⟨(values[i], i), List.mem_zipIdx_iff_getElem?.mpr (by simp [hi]), rfl⟩
  have hanswers : ∀ l ∈ values.zipIdx, ∀ r ∈ values.zipIdx,
      Sheet.Answers adjacent (cellOf p values) fails l.2 l.1 r.2 r.1 := by
    intro l hl r hr
    rw [Sheet.Answers, cellOf_eq (hplace l hl) (hplace r hr)]
    refine ⟨fun heq ↦ by simp [heq], fun hne ↦ ?_⟩
    exact (h l.1 (hmem l hl) r.1 (hmem r hr)).mono fun b hb ↦ by simp [hb, hne]
  simp only [← setCells_zipIdx] at hfinish
  have hfill := Sheet.triple_fillRows (fun _ _ ↦ False) (fun _ ↦ False) hfinish hlt
    fun l hl ↦ ⟨hlt l hl, hanswers l hl⟩
  refine Ends.onSheet (hfill.imp (fun _ hs ↦ hs) (fun _ s hs ↦ ?_) (fun _ _ he ↦ he))
    fun s ↦ ⟨⟨Table.square_blank _, fun _ _ h ↦ h.elim⟩, hcounts⟩
  obtain ⟨hgrid, hcounts⟩ := hs
  simp only [hall, false_or] at hgrid hcounts
  exact ⟨hgrid.square.eq_ofFn fun i hi j hj ↦ hgrid.agree i j ⟨hi, hj⟩, hcounts⟩

/-- The filled table is the table of the relation that answers the questions. -/
theorem adjacencyTable_ends
    (h : ∀ a ∈ values, ∀ b ∈ values, Ends (adjacent a b) (· = p a b) fails) :
    Ends (adjacencyTable adjacent values) (· = tableOf p values) fails := by
  have hfill : Ends (Call.onSheet (Table.blank values.length) () (Sheet.fill adjacent values))
      (fun r ↦ r.1 = tableOf p values ∧ True) fails :=
    ends_onSheet (fun _ _ ↦ True) trivial (fun _ _ _ _ ↦ .pure fun _ hs ↦ hs) h
  exact .map (hfill.mono fun _ hr ↦ hr.1)

/-- A graph of a relation on a list of vertices: the table and the counts are those of the
relation. -/
structure Graph.Represents (p : α → α → Bool) (values : List α) (g : Graph τ α) : Prop where
  vertices : g.vertices = values
  table : g.table = tableOf p values
  counts : g.counts.toList = (List.range values.length).map (degreeOf p values)

/-- A graph has the different values for vertices, and represents their relation. -/
theorem Graph.build_ends [BEq α]
    (h : ∀ a ∈ values.eraseDups, ∀ b ∈ values.eraseDups,
      Ends (adjacent a b) (· = p a b) fails) :
    Ends (Graph.build values adjacent)
      (fun g ↦ g.adjacent = adjacent ∧ g.Represents p values.eraseDups) fails := by
  refine .bind (ends_onSheet (fun finished counts ↦ counts.size = values.eraseDups.length ∧
    ∀ i, finished i → counts[i]? = some (degreeOf p values.eraseDups i)) (by simp)
    (fun i hi done finished ↦ ?_) h) fun r ⟨htable, hsize, hcounts⟩ ↦ ?_
  · rintro ⟨t, counts, caller⟩ ⟨ht, hsize, hcounts⟩
    simp only [Sheet.putCount, Call.zoom, Tally.put, hsize, hi, if_true]
    refine ⟨ht, by simpa using hsize, fun j hj ↦ ?_⟩
    by_cases hij : j = i
    · subst hij
      rw [Array.getElem?_setIfInBounds_self_of_lt (hsize ▸ hi)]
      rfl
    · simpa [Ne.symm hij] using hcounts j (hj.resolve_right hij)
  · refine .pure ⟨rfl, rfl, htable, List.ext_getElem? fun i ↦ ?_⟩
    by_cases hi : i < values.eraseDups.length
    · simpa [hi] using hcounts i hi
    · simp [hi, hsize]

end Table

end Loadout
