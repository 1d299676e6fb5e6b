import Loadout.Proofs.Selection.Exhaustive
import Loadout.Selection.DisjointRow
import Mathlib.Algebra.BigOperators.Group.List.Basic
import Mathlib.Algebra.Ring.Defs
import Mathlib.Data.List.Induction

/-!
# What the heaviest row holds

Whatever sums and comparisons of weights mean, a run answers one of the rows,
`DisjointRow.find_ends_answeredRow`, provided that the candidates can be printed and the table of
their rows can be laid out, `DisjointRow.Tabled`.  With exact weights a row weighs what its
candidates weigh together, `DisjointRow.rowWeight_eq`, and a run answers the first of the heaviest
rows, `DisjointRow.find_ends`.  A family of candidates that are disjoint from each other lies in the
row of each of its members, so no such family is heavier than the heaviest row if no candidate has a
negative weight, `DisjointRow.total_le_total_heaviestRow`.
-/

namespace Loadout

variable {τ α ω φ : Type} {p : α → α → Bool} {values T : List α}

namespace DisjointRow

/-! ## The heaviest of some rows -/

section Heaviest

variable [LinearOrder φ]

theorem heavier_eq (best next : φ × Nat) :
    heavier best next = if best.1 < next.1 then next else best := by
  simp [heavier]

/-- The first of the heaviest rows is found. -/
theorem foldl_heavier (row : φ × Nat) (rows : List (φ × Nat)) :
    ∃ before after, row :: rows = before ++ rows.foldl heavier row :: after ∧
      (∀ r ∈ before, r.1 < (rows.foldl heavier row).1) ∧
      ∀ r ∈ after, r.1 ≤ (rows.foldl heavier row).1 := by
  induction rows using List.reverseRecOn with
  | nil => exact ⟨[], [], rfl, by simp, by simp⟩
  | append_singleton rows next ih =>
    obtain ⟨before, after, hsplit, hbefore, hafter⟩ := ih
    rw [List.foldl_append, List.foldl_cons, List.foldl_nil, heavier_eq]
    have hall : ∀ r ∈ row :: rows, r.1 ≤ (rows.foldl heavier row).1 := by
      intro r hr
      rw [hsplit] at hr
      rcases List.mem_append.mp hr with hr | hr
      · exact le_of_lt (hbefore r hr)
      · rcases List.mem_cons.mp hr with rfl | hr
        · exact le_rfl
        · exact hafter r hr
    split
    next hlt =>
      refine ⟨row :: rows, [], by simp, fun r hr ↦ ?_, by simp⟩
      exact lt_of_le_of_lt (hall r hr) hlt
    next hle =>
      refine ⟨before, after ++ [next], ?_, hbefore, fun r hr ↦ ?_⟩
      · rw [← List.cons_append, hsplit, List.append_assoc, List.cons_append]
      · rcases List.mem_append.mp hr with hr | hr
        · exact hafter r hr
        · rw [List.mem_singleton.mp hr]
          exact not_lt.mp hle

/-- The row at the index that is found is the heaviest, and heavier than all rows before it. -/
theorem heaviest_zipIdx {rows : List φ} (h : rows ≠ []) :
    ∃ weight, rows[heaviest rows.zipIdx]? = some weight ∧ (∀ r ∈ rows, r ≤ weight) ∧
      ∀ i < heaviest rows.zipIdx, ∀ r, rows[i]? = some r → r < weight := by
  obtain ⟨best, before, after, hsplit, hbest, hbefore, hafter⟩ :
      ∃ best before after, rows.zipIdx = before ++ best :: after ∧
        best.2 = heaviest rows.zipIdx ∧ (∀ r ∈ before, r.1 < best.1) ∧
        ∀ r ∈ after, r.1 ≤ best.1 := by
    cases rows with
    | nil => exact absurd rfl h
    | cons row rows =>
      obtain ⟨before, after, hsplit, hbefore, hafter⟩ := foldl_heavier (row, 0) (rows.zipIdx 1)
      exact ⟨_, before, after, hsplit, rfl, hbefore, hafter⟩
  have hplace : ∀ i : Nat, (rows[i]?).map (fun r ↦ (r, i)) = (before ++ best :: after)[i]? := by
    intro i
    rw [← hsplit, List.getElem?_zipIdx, Nat.zero_add]
  have hmiddle : rows[before.length]? = some best.1 ∧ before.length = best.2 := by
    have hfound := hplace before.length
    rw [List.getElem?_append_right le_rfl, Nat.sub_self, List.getElem?_cons_zero,
      Option.map_eq_some_iff] at hfound
    obtain ⟨r, hr, heq⟩ := hfound
    rw [← heq]
    exact ⟨hr, rfl⟩
  rw [← hbest, ← hmiddle.2]
  refine ⟨best.1, hmiddle.1, fun r hr ↦ ?_, fun i hi r hr ↦ ?_⟩
  · obtain ⟨i, hi⟩ := List.mem_iff_getElem?.mp hr
    have hmem : (r, i) ∈ before ++ best :: after := by
      refine List.mem_iff_getElem?.mpr ⟨i, ?_⟩
      rw [← hplace, hi, Option.map_some]
    rcases List.mem_append.mp hmem with hmem | hmem
    · exact le_of_lt (hbefore _ hmem)
    · rcases List.mem_cons.mp hmem with heq | hmem
      · rw [← heq]
      · exact hafter _ hmem
  · have hrow := hplace i
    rw [hr, Option.map_some, List.getElem?_append_left hi] at hrow
    exact hbefore (r, i) (List.mem_of_getElem? hrow.symm)

end Heaviest

/-! ## Rows -/

/-- The row of the candidate at a place. -/
def rowOf (p : α → α → Bool) (values : List α) (i : Nat) : List α :=
  valuesAt values (i :: partners (tableOf p values) values.length i)

theorem mem_partners {i j : Nat} {a b : α} (hi : values[i]? = some a) (hj : values[j]? = some b) :
    j ∈ partners (tableOf p values) values.length i ↔ i ≠ j ∧ p a b = false := by
  obtain ⟨hilt, -⟩ := List.getElem?_eq_some_iff.mp hi
  obtain ⟨hjlt, -⟩ := List.getElem?_eq_some_iff.mp hj
  simp only [partners, List.mem_filter, List.mem_range, tableOf, Table.cell_ofFn,
    cellOf_eq hi hj]
  by_cases hij : i = j
  · simp [hij]
  · simp [hij, hilt, hjlt]

theorem rowOf_eq {i : Nat} {a : α} (hi : values[i]? = some a) :
    rowOf p values i = a :: valuesAt values (partners (tableOf p values) values.length i) :=
  List.filterMap_cons_some hi

/-- A row holds its owner and what is disjoint from it. -/
theorem mem_rowOf {i : Nat} {a b : α} (hi : values[i]? = some a) :
    b ∈ rowOf p values i ↔ b ∈ values ∧ (b = a ∨ p a b = false) := by
  rw [rowOf_eq hi, List.mem_cons]
  constructor
  · rintro (rfl | hb)
    · exact ⟨List.mem_of_getElem? hi, .inl rfl⟩
    · obtain ⟨j, hj, hjb⟩ := mem_valuesAt.mp hb
      exact ⟨List.mem_of_getElem? hjb, .inr ((mem_partners hi hjb).mp hj).2⟩
  · rintro ⟨hb, hab⟩
    by_cases heq : b = a
    · exact .inl heq
    · obtain ⟨j, hj⟩ := List.mem_iff_getElem?.mp hb
      have hij : i ≠ j := by
        rintro rfl
        exact heq (Option.some.inj (hj.symm.trans hi))
      refine .inr (mem_valuesAt.mpr ⟨j, ?_, hj⟩)
      exact (mem_partners hi hj).mpr ⟨hij, hab.resolve_left heq⟩

theorem nodup_rowOf (hv : values.Nodup) (p : α → α → Bool) (i : Nat) :
    (rowOf p values i).Nodup := by
  have hplaces : (i :: partners (tableOf p values) values.length i).Nodup := by
    refine List.nodup_cons.mpr ⟨fun h ↦ ?_, List.nodup_range.filter _⟩
    simpa using List.of_mem_filter h
  refine hplaces.filterMap fun j k a hj hk ↦ ?_
  obtain ⟨hjlt, hja⟩ := List.getElem?_eq_some_iff.mp hj
  obtain ⟨hklt, hka⟩ := List.getElem?_eq_some_iff.mp hk
  exact hv.getElem_inj_iff.mp (hja.trans hka.symm)

/-! ## The weights of rows -/

theorem valuesAt_filter_range (values : List α) (q : Nat → Bool) :
    valuesAt values ((List.range values.length).filter q) =
      (values.zipIdx.filter fun item ↦ q item.2).map (·.1) := by
  have hplaces : List.range values.length = values.zipIdx.map (·.2) := by
    rw [List.zipIdx_map_snd, List.range_eq_range']
  rw [hplaces, List.filter_map, valuesAt, List.filterMap_map, ← List.filterMap_eq_map]
  refine List.filterMap_congr fun item hitem ↦ ?_
  exact List.mem_zipIdx_iff_getElem?.mp (List.mem_of_mem_filter hitem)

/-- The weights of all rows, whatever sums and products mean. -/
def rowWeights [Zero φ] [One φ] [Add φ] [Mul φ] (p : α → α → Bool) (weight : α → φ)
    (values : List α) : List φ :=
  (values.map weight).zipIdx.map fun item ↦
    rowWeight (tableOf p values) (values.map weight) item.2 item.1

section Weights

variable [Ring φ] {weight : α → φ}

/-- A row weighs what its candidates weigh together. -/
theorem rowWeight_eq {i : Nat} {a : α} (hi : values[i]? = some a) :
    rowWeight (tableOf p values) (values.map weight) i (weight a) =
      total weight (rowOf p values i) := by
  rw [rowOf_eq hi, total_cons, rowWeight, partners, valuesAt_filter_range]
  congr 1
  set partner : α × Nat → Bool := fun item ↦ i != item.2 && !(tableOf p values).cell i item.2
  calc (values.map weight).zipIdx.foldl (fun sum item ↦
          sum + (if i != item.2 && !(tableOf p values).cell i item.2 then 1 else 0) * item.1) 0
      = (values.zipIdx.map fun item ↦ (if partner item then 1 else 0) * weight item.1).sum := by
        rw [List.sum_eq_foldl, List.zipIdx_map, List.foldl_map, List.foldl_map]
        rfl
    _ = (values.zipIdx.map fun item ↦ if partner item then weight item.1 else 0).sum := by
        simp only [ite_mul, one_mul, zero_mul]
    _ = total weight ((values.zipIdx.filter partner).map (·.1)) := by
        rw [List.sum_map_ite, total, List.map_map]
        simp [Function.comp_def]

/-- The weights of all rows. -/
def rowTotals (p : α → α → Bool) (weight : α → φ) (values : List α) : List φ :=
  (List.range values.length).map fun i ↦ total weight (rowOf p values i)

theorem rowWeights_eq (p : α → α → Bool) (weight : α → φ) (values : List α) :
    rowWeights p weight values = rowTotals p weight values := by
  refine List.ext_getElem? fun i ↦ ?_
  rw [rowWeights, List.getElem?_map, List.getElem?_zipIdx, List.getElem?_map, rowTotals,
    List.getElem?_map]
  cases hi : values[i]? with
  | none =>
    have hle := List.getElem?_eq_none_iff.mp hi
    rw [List.getElem?_eq_none (by simpa using hle)]
    rfl
  | some a =>
    have hlt := (List.getElem?_eq_some_iff.mp hi).1
    rw [List.getElem?_range hlt]
    simp only [Option.map_some, Nat.zero_add, rowWeight_eq hi]

end Weights

section Exact

variable [Ring φ] [LinearOrder φ] {weight : α → φ}

/-- The first of the heaviest rows. -/
def heaviestRow (p : α → α → Bool) (weight : α → φ) (values : List α) : List α :=
  rowOf p values (heaviest (rowTotals p weight values).zipIdx)

theorem nodup_heaviestRow (hv : values.Nodup) (p : α → α → Bool) (weight : α → φ) :
    (heaviestRow p weight values).Nodup :=
  nodup_rowOf hv p _

theorem heaviestRow_subset (p : α → α → Bool) (weight : α → φ) (values : List α) :
    heaviestRow p weight values ⊆ values := by
  intro a ha
  obtain ⟨i, -, hi⟩ := mem_valuesAt.mp ha
  exact List.mem_of_getElem? hi

/-- No row is heavier. -/
theorem total_rowOf_le_total_heaviestRow {i : Nat} (hi : i < values.length) :
    total weight (rowOf p values i) ≤ total weight (heaviestRow p weight values) := by
  have hmem : total weight (rowOf p values i) ∈ rowTotals p weight values :=
    List.mem_map.mpr ⟨i, List.mem_range.mpr hi, rfl⟩
  obtain ⟨most, hmost, hall, -⟩ := heaviest_zipIdx (List.ne_nil_of_mem hmem)
  rw [rowTotals, List.getElem?_map, Option.map_eq_some_iff] at hmost
  obtain ⟨owner, howner, hrow⟩ := hmost
  obtain ⟨hlt, hplace⟩ := List.getElem?_eq_some_iff.mp howner
  have hfound : heaviest (rowTotals p weight values).zipIdx = owner :=
    (List.getElem_range hlt).symm.trans hplace
  rw [heaviestRow, hfound, hrow]
  exact hall _ hmem

/-- If no candidate has a negative weight, no independent set is heavier than the heaviest row. -/
theorem total_le_total_heaviestRow [IsOrderedAddMonoid φ] (hv : values.Nodup)
    (hweight : ∀ a ∈ values, 0 ≤ weight a) (hT : Independent p values T) :
    total weight T ≤ total weight (heaviestRow p weight values) := by
  have hnonneg : ∀ a ∈ heaviestRow p weight values, 0 ≤ weight a := fun a ha ↦
    hweight a (heaviestRow_subset p weight values ha)
  cases hT' : T with
  | nil => exact total_le_of_nonneg (nodup_heaviestRow hv p weight) .nil (by simp) hnonneg
  | cons a U =>
    -- The whole set lies in the row of its first member.
    rw [← hT']
    have ha : a ∈ T := hT' ▸ List.mem_cons_self
    obtain ⟨i, hi⟩ := List.mem_iff_getElem?.mp (hT.subset ha)
    have hsub : T ⊆ rowOf p values i := by
      intro b hb
      refine (mem_rowOf hi).mpr ⟨hT.subset hb, ?_⟩
      by_cases hba : b = a
      · exact .inl hba
      · exact .inr (hT.apart a ha b hb (Ne.symm hba))
    calc total weight T ≤ total weight (rowOf p values i) :=
          total_le_of_nonneg (nodup_rowOf hv p i) hT.nodup hsub fun b hb ↦
            hweight b ((mem_rowOf hi).mp hb).1
      _ ≤ total weight (heaviestRow p weight values) :=
          total_rowOf_le_total_heaviestRow (List.getElem?_eq_some_iff.mp hi).1

/-- The heaviest row, unless there are fewer than two candidates, which are all selected. -/
def selectedRow (p : α → α → Bool) (weight : α → φ) (values : List α) : List α :=
  if values.length < 2 then values else heaviestRow p weight values

theorem selectedRow_subset (p : α → α → Bool) (weight : α → φ) (values : List α) :
    selectedRow p weight values ⊆ values := by
  unfold selectedRow
  split
  · exact List.Subset.refl _
  · exact heaviestRow_subset p weight values

theorem nodup_selectedRow (hv : values.Nodup) (p : α → α → Bool) (weight : α → φ) :
    (selectedRow p weight values).Nodup := by
  unfold selectedRow
  split
  · exact hv
  · exact nodup_heaviestRow hv p weight

/-- If no candidate has a negative weight, no independent set is heavier than what is selected. -/
theorem total_le_total_selectedRow [IsOrderedAddMonoid φ] (hv : values.Nodup)
    (hweight : ∀ a ∈ values, 0 ≤ weight a) (hT : Independent p values T) :
    total weight T ≤ total weight (selectedRow p weight values) := by
  unfold selectedRow
  split
  · exact total_le_of_nonneg hv hT.nodup hT.subset hweight
  · exact total_le_total_heaviestRow hv hweight hT

end Exact

/-! ## The run -/

section Run

/-- The row that counts as the heaviest, whatever sums and comparisons of weights mean, unless there
are fewer than two candidates. -/
def answeredRow [Zero φ] [One φ] [Add φ] [Mul φ] [LE φ] [DecidableLE φ] (p : α → α → Bool)
    (weight : α → φ) (values : List α) : List α :=
  if values.length < 2 then values
  else rowOf p values (heaviest (rowWeights p weight values).zipIdx)

theorem answeredRow_eq [Ring φ] [LinearOrder φ] (p : α → α → Bool) (weight : α → φ)
    (values : List α) : answeredRow p weight values = selectedRow p weight values := by
  rw [answeredRow, rowWeights_eq, selectedRow, heaviestRow]

variable {labels : Labels τ α φ} {tabulate : Tabulator} {fails : Failure → Prop}

/-- The table of the rows can be laid out, or fails in an expected way. -/
def Tabled [Zero φ] [One φ] [Add φ] [Mul φ] (labels : Labels τ α φ) (tabulate : Tabulator)
    (p : α → α → Bool) (weight : α → φ) (values : List α) (fails : Failure → Prop) : Prop :=
  tabulate.Ends tableHeads
    (tableRows labels values (values.map weight) (rowWeights p weight values)) fails

/-- If every table can be laid out, it is enough that the values can be printed. -/
theorem Tabled.of_total [Zero φ] [One φ] [Add φ] [Mul φ] {weight : α → φ}
    (htotal : ∀ heads rows, tabulate heads rows = .ok ())
    (hlabels : ∀ a ∈ values, Call.Ends (labels.vertex a) (fun _ ↦ True) fails) :
    Tabled labels tabulate p weight values fails :=
  Tabulator.Ends.of_total htotal ((Call.Ends.mapM hlabels).bind fun _ _ ↦ .pure trivial)

variable [BEq α] {candidates : List α} {weight : α → φ} {intersect : α → α → Call τ Bool}
variable {weighing : Weighing τ α ω φ}

/-- Whatever sums and comparisons of weights mean, the different values decide what a run
answers. -/
theorem find_ends_answeredRow [Zero φ] [One φ] [Add φ] [Mul φ] [LE φ] [DecidableLE φ]
    (hintersect : ∀ a ∈ candidates.eraseDups, ∀ b ∈ candidates.eraseDups,
      Call.Ends (intersect a b) (· = p a b) fails)
    (hnumber : ∀ a ∈ candidates.eraseDups, Call.Ends (weighing.number a) (· = weight a) fails)
    (hlabels : ∀ a ∈ candidates.eraseDups, Call.Ends (labels.vertex a) (fun _ ↦ True) fails)
    (htable : Tabled labels tabulate p weight candidates.eraseDups fails) :
    Call.Ends (find labels tabulate candidates intersect weighing)
      (· = answeredRow p weight candidates.eraseDups) fails := by
  unfold answeredRow
  by_cases hsize : candidates.eraseDups.length < 2
  · simp only [find, hsize, if_true]
    exact .pure rfl
  · simp only [find, hsize, if_false]
    refine (Run.ends_ask (Call.Ends.mapM_eq hnumber)).bind fun weights hweights ↦ ?_
    refine (Run.ends_ask (adjacencyTable_ends hintersect)).bind fun table hcells ↦ ?_
    subst hweights hcells
    rw [← rowWeights]
    refine (Run.ends_write _).bind fun _ _ ↦ ?_
    refine (Run.ends_journalled ?_).bind fun _ _ ↦ ?_
    · exact (Run.ends_ask htable).bind fun _ hrows ↦ Tabulator.ends_write hrows
    have hanswer : ∀ row : List α, Call.Ends
        (do Run.write .closeSection; return row : Run τ _) (· = row) fails :=
      fun _ ↦ (Run.ends_write _).bind fun _ _ ↦ .pure rfl
    split
    next v hv =>
      refine (Run.ends_ask (hlabels v (List.mem_of_getElem? hv))).bind fun _ _ ↦ ?_
      exact (Run.ends_write _).bind fun _ _ ↦ hanswer _
    · exact hanswer _

/-- A run answers the heaviest row of the different values. -/
theorem find_ends [Ring φ] [LinearOrder φ]
    (hintersect : ∀ a ∈ candidates.eraseDups, ∀ b ∈ candidates.eraseDups,
      Call.Ends (intersect a b) (· = p a b) fails)
    (hnumber : ∀ a ∈ candidates.eraseDups, Call.Ends (weighing.number a) (· = weight a) fails)
    (hlabels : ∀ a ∈ candidates.eraseDups, Call.Ends (labels.vertex a) (fun _ ↦ True) fails)
    (htable : Tabled labels tabulate p weight candidates.eraseDups fails) :
    Call.Ends (find labels tabulate candidates intersect weighing)
      (· = selectedRow p weight candidates.eraseDups) fails := by
  rw [← answeredRow_eq]
  exact find_ends_answeredRow hintersect hnumber hlabels htable

end Run

end DisjointRow

end Loadout
