import Loadout.Proofs.Graph.Filling
import Loadout.Proofs.Journal.Outline

/-!
# Matrices read back from their text

The lines of a matrix that is drawn are of one length, whatever the lengths of the names and however
many there are, and each mark stands at a place that depends on its row and column alone,
`MatrixBlock.aligned`.  So the cells can be read back from the text.  A matrix of values is drawn as
far as there are labels for its rows and columns, be it a list of lists, an array, or anything else
whose cells are truth values, `Journal.drawMatrix_aligned`.
-/

namespace Loadout

/-- The lines of a text. -/
def textLines (text : String) : List (List Char) :=
  text.toList.splitOn '\n'

theorem textLines_intercalate {lines : List String} (hne : lines ≠ [])
    (hlines : ∀ line ∈ lines, '\n' ∉ line.toList) :
    textLines ("\n".intercalate lines) = lines.map String.toList := by
  rw [textLines, String.toList_intercalate]
  refine List.splitOn_intercalate '\n' (fun l hl ↦ ?_) (by simpa using hne)
  obtain ⟨line, hline, rfl⟩ := List.mem_map.mp hl
  exact hlines line hline

namespace MatrixBlock

variable {names : List String} {cell : Nat → Nat → Bool} {i j : Nat}

/-! ## Lines with a bar -/

/-- A line with a bar between its left part and its marks, and a blank between two marks. -/
def barred (left marks : List Char) : List Char :=
  left ++ separator.toList ++ marks.intersperse ' '

section Barred

variable {left marks : List Char} {c : Char}

theorem length_barred (h : marks ≠ []) :
    (barred left marks).length = left.length + 2 + 2 * marks.length := by
  have hpos : 0 < marks.length := List.length_pos_iff.mpr h
  have hseparator : separator.toList.length = 3 := rfl
  rw [barred, List.length_append, List.length_append, List.length_intersperse, hseparator]
  omega

theorem getElem?_barred (left marks : List Char) (j : Nat) :
    (barred left marks)[left.length + 3 + 2 * j]? = marks[j]? := by
  have hleft : (left ++ separator.toList).length = left.length + 3 := List.length_append
  rw [barred, ← hleft, List.getElem?_append_right (Nat.le_add_right _ _), Nat.add_sub_cancel_left,
    List.getElem?_intersperse_two_mul]

theorem take_barred (left marks : List Char) : (barred left marks).take left.length = left := by
  rw [barred, List.append_assoc, List.take_left]

theorem eq_or_mem_of_mem_intersperse (h : c ∈ marks.intersperse ' ') : c = ' ' ∨ c ∈ marks := by
  obtain ⟨k, hk⟩ := List.getElem?_of_mem h
  rw [List.getElem?_intersperse] at hk
  split at hk
  · exact .inr (List.mem_of_getElem? hk)
  · split at hk
    · exact .inl (Option.some.inj hk).symm
    · exact nomatch hk

theorem newline_notMem_barred (hleft : '\n' ∉ left) (hmarks : '\n' ∉ marks) :
    '\n' ∉ barred left marks := by
  intro h
  rcases List.mem_append.mp h with h | h
  · rcases List.mem_append.mp h with h | h
    · exact hleft h
    · exact absurd h (by decide)
  · rcases eq_or_mem_of_mem_intersperse h with h | h
    · exact absurd h (by decide)
    · exact hmarks h

/-- Texts of one character each are joined as their characters are. -/
theorem toList_intercalate_singleton (marks : List Char) :
    (" ".intercalate (marks.map String.singleton)).toList = marks.intersperse ' ' := by
  have hchars : String.toList ∘ String.singleton = fun c ↦ [c] := funext String.toList_singleton
  rw [String.toList_intercalate, List.map_map, hchars]
  induction marks with
  | nil => rfl
  | cons c cs ih =>
    cases cs with
    | nil => rfl
    | cons d cs =>
      have htail : " ".toList.intercalate ([d] :: cs.map fun c ↦ [c]) =
          (d :: cs).intersperse ' ' := ih
      rw [List.map_cons, List.map_cons, List.intercalate_cons_cons, htail,
        List.intersperse_cons_cons]
      rfl

end Barred

/-! ## The lines of a block -/

/-- A name with blanks up to a width. -/
def padded (width : Nat) (name : String) : List Char :=
  name.toList ++ List.replicate (width - name.length) ' '

theorem toList_pad (width : Nat) (name : String) : (pad width name).toList = padded width name := by
  rw [pad, String.toList_append, String.toList_ofList, padded]

theorem length_padded {width : Nat} {name : String} (h : name.length ≤ width) :
    (padded width name).length = width := by
  rw [padded, List.length_append, List.length_replicate, String.length_toList]
  omega

theorem le_width {name : String} (h : name ∈ names) : name.length ≤ width names := by
  rw [width, List.foldl_max]
  exact le_trans (List.le_max?_getD_of_mem (List.mem_map_of_mem h)) le_sup_right

theorem exists_length_eq_width (h : names ≠ []) : ∃ name ∈ names, name.length = width names := by
  obtain ⟨longest, hlongest⟩ := Option.isSome_iff_exists.mp
    (List.isSome_max?_of_ne_nil (mt List.map_eq_nil_iff.mp h : names.map String.length ≠ []))
  obtain ⟨name, hname, hlength⟩ := List.mem_map.mp (List.max?_mem hlongest)
  refine ⟨name, hname, ?_⟩
  rw [width, List.foldl_max, hlongest, Option.getD_some, hlength]
  exact (Nat.zero_max _).symm

/-- The character that stands for a cell. -/
def markChar (cell : Bool) : Char :=
  if cell then '1' else '.'

/-- The last digit of a column's number. -/
def columnDigit (j : Nat) : Char :=
  (j % 10).digitChar

theorem toList_row (width : Nat) (name : String) (cells : List Bool) :
    (row width name cells).toList = barred (padded width name) (cells.map markChar) := by
  have hmark : mark = String.singleton ∘ markChar := funext fun b ↦ by cases b <;> rfl
  rw [row, String.toList_append, String.toList_append, toList_pad, hmark, ← List.map_map,
    toList_intercalate_singleton, barred]

theorem toList_header : (header names).toList =
    barred (padded (width names) "") ((List.range names.length).map columnDigit) := by
  have hdigit : (fun j : Nat ↦ toString (j % 10)) = String.singleton ∘ columnDigit :=
    funext fun j ↦ Nat.repr_of_lt (Nat.mod_lt j (by decide))
  rw [header, String.toList_append, String.toList_append, toList_pad, hdigit, ← List.map_map,
    toList_intercalate_singleton, barred]

theorem toList_rule :
    (rule names).toList = List.replicate (header names).toList.length '-' := by
  rw [rule, String.toList_ofList, String.length_toList]

/-- The cells of a matrix in its first rows and columns. -/
def leading (size : Nat) (cell : Nat → Nat → Bool) : List (List Bool) :=
  (List.range size).map fun i ↦ (List.range size).map (cell i)

/-- The block of the cells for which there are names. -/
def blockOf (names : List String) (cell : Nat → Nat → Bool) : String :=
  block names (leading names.length cell)

def rowLine (names : List String) (cell : Nat → Nat → Bool) (i : Nat) (name : String) : List Char :=
  barred (padded (width names) name) ((List.range names.length).map fun j ↦ markChar (cell i j))

theorem zipWith_row :
    (List.zipWith (row (width names)) names (leading names.length cell)).map String.toList =
      names.mapIdx (rowLine names cell) := by
  refine List.ext_getElem? fun i ↦ ?_
  rw [List.getElem?_map, List.getElem?_zipWith, leading, List.getElem?_map, List.getElem?_mapIdx]
  cases hname : names[i]? with
  | none => rfl
  | some name =>
    have hi : i < names.length := (List.getElem?_eq_some_iff.mp hname).1
    rw [List.getElem?_range hi]
    simp only [Option.map_some, toList_row, List.map_map, rowLine]
    rfl

theorem lines_blockOf : (lines names (leading names.length cell)).map String.toList =
    (header names).toList :: (rule names).toList :: names.mapIdx (rowLine names cell) := by
  rw [lines, List.map_cons, List.map_cons, zipWith_row]

/-! ### A block has no other lines -/

theorem columnDigit_ne_newline (j : Nat) : columnDigit j ≠ '\n' := by
  have hdigit : (columnDigit j).isDigit = decide (j % 10 < 10) := Nat.isDigit_digitChar
  rw [decide_eq_true (Nat.mod_lt j (by decide))] at hdigit
  intro h
  rw [h] at hdigit
  exact absurd hdigit (by decide)

theorem markChar_ne_newline (b : Bool) : markChar b ≠ '\n' := by
  cases b <;> decide

theorem newline_notMem_map {f : Nat → Char} (h : ∀ j, f j ≠ '\n') (xs : List Nat) :
    '\n' ∉ xs.map f := by
  intro hmem
  obtain ⟨j, -, hj⟩ := List.mem_map.mp hmem
  exact h j hj

theorem newline_notMem_padded {width : Nat} {name : String} (h : '\n' ∉ name.toList) :
    '\n' ∉ padded width name := by
  intro hmem
  rcases List.mem_append.mp hmem with hmem | hmem
  · exact h hmem
  · exact absurd (List.eq_of_mem_replicate hmem) (by decide)

theorem newline_notMem_header : '\n' ∉ (header names).toList := by
  rw [toList_header]
  exact newline_notMem_barred (newline_notMem_padded List.not_mem_nil)
    (newline_notMem_map columnDigit_ne_newline _)

theorem newline_notMem_rule : '\n' ∉ (rule names).toList := by
  rw [toList_rule]
  exact fun h ↦ absurd (List.eq_of_mem_replicate h) (by decide)

theorem newline_notMem_rowLine {name : String} (h : '\n' ∉ name.toList) (i : Nat) :
    '\n' ∉ rowLine names cell i name :=
  newline_notMem_barred (newline_notMem_padded h)
    (newline_notMem_map (fun j ↦ markChar_ne_newline (cell i j)) _)

theorem textLines_blockOf (cell : Nat → Nat → Bool) (h : ∀ name ∈ names, '\n' ∉ name.toList) :
    textLines (blockOf names cell) =
      (header names).toList :: (rule names).toList :: names.mapIdx (rowLine names cell) := by
  have hlines : ∀ l ∈ (lines names (leading names.length cell)).map String.toList, '\n' ∉ l := by
    rw [lines_blockOf]
    intro l hl
    rcases List.mem_cons.mp hl with hl | hl
    · rw [hl]
      exact newline_notMem_header
    · rcases List.mem_cons.mp hl with hl | hl
      · rw [hl]
        exact newline_notMem_rule
      · obtain ⟨i, hi, rfl⟩ := List.mem_mapIdx.mp hl
        exact newline_notMem_rowLine (h _ (List.getElem_mem hi)) i
  have hne : lines names (leading names.length cell) ≠ [] := List.cons_ne_nil _ _
  rw [← lines_blockOf]
  exact textLines_intercalate hne fun line hline ↦ hlines _ (List.mem_map_of_mem hline)

/-! ## Reading a block -/

/-- The cells that are read from the text of a block.  How many there are, and where the marks begin,
is known from the number of lines and the length of the first one. -/
def readCells (block : String) : List (List Bool) :=
  let lines := textLines block
  let size := lines.length - 2
  let width := (lines.headD []).length - 2 - 2 * size
  (lines.drop 2).map fun l ↦
    (List.range size).map fun j ↦ l[width + 3 + 2 * j]? == some '1'

/-- A block is a text of lines of one length, in which the names and marks stand at their places, so
that its cells can be read from it. -/
structure Aligned (names : List String) (cell : Nat → Nat → Bool) (block : String) : Prop where
  longest : (∃ name ∈ names, name.length = width names) ∧
    ∀ name ∈ names, name.length ≤ width names
  count : (textLines block).length = names.length + 2
  length_eq : ∀ l ∈ textLines block, l.length = width names + 2 + 2 * names.length
  name : ∀ i name, names[i]? = some name → ∃ l, (textLines block)[i + 2]? = some l ∧
    l.take (width names) = name.toList ++ List.replicate (width names - name.length) ' '
  mark : ∀ i < names.length, ∀ j < names.length, ∃ l, (textLines block)[i + 2]? = some l ∧
    l[width names + 3 + 2 * j]? = some (if cell i j then '1' else '.')
  read : readCells block = leading names.length cell

section Aligned

variable (hne : names ≠ []) (hnames : ∀ name ∈ names, '\n' ∉ name.toList)

include hne

theorem length_header : (header names).toList.length = width names + 2 + 2 * names.length := by
  rw [toList_header, length_barred (by simpa using hne), length_padded (Nat.zero_le _),
    List.length_map, List.length_range]

theorem length_rule : (rule names).toList.length = width names + 2 + 2 * names.length := by
  rw [toList_rule, List.length_replicate, length_header hne]

theorem length_rowLine {name : String} (h : name ∈ names) (i : Nat) :
    (rowLine names cell i name).length = width names + 2 + 2 * names.length := by
  rw [rowLine, length_barred (by simpa using hne), length_padded (le_width h), List.length_map,
    List.length_range]

omit hne

theorem getElem?_rowLine {name : String} (h : name ∈ names) (hj : j < names.length) :
    (rowLine names cell i name)[width names + 3 + 2 * j]? = some (markChar (cell i j)) := by
  have hmark := getElem?_barred (padded (width names) name)
    ((List.range names.length).map fun j ↦ markChar (cell i j)) j
  rw [length_padded (le_width h)] at hmark
  rw [rowLine, hmark, List.getElem?_map, List.getElem?_range hj, Option.map_some]

theorem take_rowLine {name : String} (h : name ∈ names) :
    (rowLine names cell i name).take (width names) = padded (width names) name := by
  conv_lhs => rw [← length_padded (le_width h)]
  exact take_barred _ _

include hne hnames

theorem readCells_blockOf : readCells (blockOf names cell) = leading names.length cell := by
  have hlines := textLines_blockOf cell hnames
  have hsize : (textLines (blockOf names cell)).length - 2 = names.length := by
    rw [hlines, List.length_cons, List.length_cons, List.length_mapIdx]
    rfl
  have hwidth : ((textLines (blockOf names cell)).headD []).length - 2 - 2 * names.length =
      width names := by
    rw [hlines, List.headD_cons, length_header hne]
    omega
  have hrows : (textLines (blockOf names cell)).drop 2 = names.mapIdx (rowLine names cell) := by
    rw [hlines]
    rfl
  rw [readCells, hsize, hwidth, hrows]
  refine List.ext_getElem (by simp [leading]) fun i hi _ ↦ ?_
  simp only [leading, List.getElem_map, List.getElem_mapIdx, List.getElem_range]
  refine List.map_congr_left fun j hj ↦ ?_
  rw [getElem?_rowLine (List.getElem_mem _) (List.mem_range.mp hj)]
  cases cell i j <;> rfl

theorem aligned : Aligned names cell (blockOf names cell) := by
  have hlines := textLines_blockOf cell hnames
  have hrow : ∀ i name, names[i]? = some name →
      (textLines (blockOf names cell))[i + 2]? = some (rowLine names cell i name) := by
    intro i name hi
    rw [hlines, List.getElem?_cons_succ, List.getElem?_cons_succ, List.getElem?_mapIdx, hi]
    rfl
  refine ⟨⟨exists_length_eq_width hne, fun _ ↦ le_width⟩, ?_, ?_, ?_, ?_,
    readCells_blockOf hne hnames⟩
  · rw [hlines, List.length_cons, List.length_cons, List.length_mapIdx]
  · rw [hlines]
    refine List.forall_mem_cons.mpr ⟨length_header hne, List.forall_mem_cons.mpr
      ⟨length_rule hne, fun l hl ↦ ?_⟩⟩
    obtain ⟨i, hi, rfl⟩ := List.mem_mapIdx.mp hl
    exact length_rowLine hne (List.getElem_mem hi) i
  · intro i name hi
    exact ⟨_, hrow i name hi, take_rowLine (List.mem_of_getElem? hi)⟩
  · intro i hi j hj
    exact ⟨_, hrow i _ (List.getElem?_eq_getElem hi), getElem?_rowLine (List.getElem_mem hi) hj⟩

end Aligned

end MatrixBlock

/-- The rows of a graph are the cells of its table. -/
theorem Graph.rows_eq_leading {τ α : Type} {g : Graph τ α} {size : Nat}
    {cell : Nat → Nat → Bool} (h : g.table.Square size)
    (hcell : ∀ i < size, ∀ j < size, g.table.cell i j = cell i j) :
    g.rows = MatrixBlock.leading size cell := by
  rw [rows, h.eq_ofFn hcell, Table.rows_ofFn, MatrixBlock.leading]

/-! ## Matrices of values -/

/-- Elements that can be read without the caller are read as they are. -/
theorem Value.elements_eq {v : Value} {values : List Value} (h : v.elements? = .ok values) :
    v.elements = pure values := by
  cases v with
  | iterator label => exact nomatch h
  | _ => exact congrArg Call.ofExcept h

/-- A matrix of values has truth values in its first rows and columns, however it is stored. -/
def Value.HasCells (matrix : Value) (size : Nat) (cell : Nat → Nat → Bool) : Prop :=
  ∀ i < size, ∃ row, matrix.item i = .ok row ∧ ∀ j < size, row.item j = .ok (.truth (cell i j))

/-- Nested lists are such a matrix if no list is too short. -/
theorem Value.hasCells_list {rows : List (List Bool)} {size : Nat} (hrows : size ≤ rows.length)
    (hcolumns : ∀ row ∈ rows, size ≤ row.length) :
    (Value.list (rows.map fun row ↦ .list (row.map .truth))).HasCells size
      fun i j ↦ (rows.getD i []).getD j false := by
  intro i hi
  have hrow : rows[i]? = some rows[i] := List.getElem?_eq_getElem (by omega)
  refine ⟨.list (rows[i].map .truth), ?_, fun j hj ↦ ?_⟩
  · simp only [item, List.getElem?_map, hrow, Option.map_some]
  · have hlength := hcolumns rows[i] (List.getElem_mem _)
    have hcell : rows[i][j]? = some rows[i][j] := List.getElem?_eq_getElem (by omega)
    simp only [item, List.getElem?_map, hcell, Option.map_some, List.getD_eq_getElem?_getD, hrow,
      Option.getD_some]

/-- The cells of an array of rows of one length are those of its rows, one after the other. -/
theorem getElem?_row {α : Type} (cells : List α) {i j columns : Nat} (hj : j < columns) :
    ((cells.drop (i * columns)).take columns)[j]? = cells[i * columns + j]? := by
  rw [List.getElem?_take_of_lt hj, List.getElem?_drop]

/-- An array is such a matrix if it has enough rows and columns. -/
theorem Value.hasCells_array (form : CellForm) {cells : List Bool} {rows columns size : Nat}
    (hcells : cells.length = rows * columns) (hrows : size ≤ rows) (hcolumns : size ≤ columns) :
    (Value.array form [rows, columns] (cells.map .truth)).HasCells size
      fun i j ↦ cells.getD (i * columns + j) false := by
  intro i hi
  have hrow : (List.range rows)[i]? = some i := List.getElem?_range (by omega)
  have hlength : [columns].foldl (· * ·) 1 = columns := Nat.one_mul columns
  refine ⟨.array form [columns] (((cells.map .truth).drop (i * columns)).take columns), ?_,
    fun j hj ↦ ?_⟩
  · simp only [item, arrayElements, hlength, List.getElem?_map, hrow, Option.map_some]
  · have hplace : i * columns + j < cells.length := by
      rw [hcells]
      calc i * columns + j < i * columns + columns := by omega
        _ = (i + 1) * columns := (Nat.succ_mul i columns).symm
        _ ≤ rows * columns := Nat.mul_le_mul_right columns (by omega)
    have hcell : cells[i * columns + j]? = some cells[i * columns + j] :=
      List.getElem?_eq_getElem hplace
    simp only [item, arrayElements, getElem?_row _ (by omega : j < columns), List.getElem?_map,
      List.getD_eq_getElem?_getD, hcell, Option.map_some, Option.getD_some]

namespace Journal

variable {name : Value → Except Failure Value} {matrix labels : Value} {values : List Value}
variable {names : List String} {cell : Nat → Nat → Bool} {w : World Caller}

open MatrixBlock (Aligned blockOf leading)

theorem matrixCells_eq {size : Nat} (h : matrix.HasCells size cell) :
    matrixCells matrix size = .ok (leading size cell) := by
  refine mapM_eq_pure fun i hi ↦ ?_
  obtain ⟨row, hrow, hcells⟩ := h i (List.mem_range.mp hi)
  refine mapM_eq_pure fun j hj ↦ ?_
  rw [hrow]
  change (do return (← row.item j).isTrue) = _
  rw [hcells j (List.mem_range.mp hj)]
  rfl

/-- A journal in which a block is drawn, below its title if it has one. -/
def withBlock (title block : String) (j : Journal) : Journal :=
  let j := if title.isEmpty then j else j.emit .info (titleLine title)
  (j.emit .info block).append (.matrix title block)

theorem matrix_eq {j : Journal} (h : j.disabled = false) (title : String) :
    j.matrix title names (leading names.length cell) = j.withBlock title (blockOf names cell) := by
  rw [Journal.matrix, Journal.unlessDisabled, h, if_neg Bool.false_ne_true]
  rfl

theorem mapM_nameText : (names.map Value.text).mapM nameText = .ok names :=
  mapM_eq_pure_of_forall₂ (List.forall₂_map_left_iff.mpr (List.forall₂_same.mpr fun _ _ ↦ rfl))

theorem drawMatrix_eq (title : String) (hused : w.journal.disabled = false)
    (hsize : labels.size = .ok values.length) (hlabels : labels.elements? = .ok values)
    (hnames : values.mapM name = .ok (names.map .text)) (hne : values ≠ [])
    (hcells : matrix.HasCells names.length cell) :
    drawMatrix name matrix labels (.text title) w =
      (.ok (), { w with journal := w.journal.withBlock title (blockOf names cell) }) := by
  have hread : Run.ask labels.elements = (pure values : Run Caller _) := by
    rw [Value.elements_eq hlabels]
    rfl
  have hknown {α : Type} (a : α) : Run.ofExcept (.ok a) = (pure a : Run Caller α) := rfl
  have htitle : Value.isTrue (.text title) = !title.isEmpty := rfl
  rw [drawMatrix, Run.journalled_apply, hused, if_neg Bool.false_ne_true, hsize, hknown, pure_bind,
    if_neg (mt List.length_eq_zero_iff.mp hne), hread, pure_bind, hnames, hknown, pure_bind,
    mapM_nameText, hknown, pure_bind, matrixCells_eq hcells, hknown, htitle, withBlock]
  cases hempty : title.isEmpty with
  | true =>
    obtain rfl := String.isEmpty_iff.mp hempty
    rfl
  | false => rfl

/-- A matrix of at least as many rows and columns as there are labels, whose names take up one line
each, is drawn as an aligned block, and so is the table of a graph. -/
theorem drawMatrix_aligned (title : String) (hused : w.journal.disabled = false)
    (hsize : labels.size = .ok values.length) (hlabels : labels.elements? = .ok values)
    (hne : values ≠ []) (hnames : values.mapM name = .ok (names.map .text))
    (hlines : ∀ name ∈ names, '\n' ∉ name.toList) (hcells : matrix.HasCells names.length cell) :
    Aligned names cell (blockOf names cell) ∧
    drawMatrix name matrix labels (.text title) w =
      (.ok (), { w with journal := w.journal.withBlock title (blockOf names cell) }) ∧
    ∀ {τ α : Type} (g : Graph τ α), g.table.Square names.length →
      (∀ i < names.length, ∀ j < names.length, g.table.cell i j = cell i j) →
      w.journal.matrix title names g.rows = w.journal.withBlock title (blockOf names cell) := by
  have hnone : names ≠ [] := by
    rintro rfl
    exact hne (List.forall₂_nil_right_iff.mp (forall₂_of_mapM_eq_ok hnames))
  refine ⟨MatrixBlock.aligned hnone hlines,
    drawMatrix_eq title hused hsize hlabels hnames hne hcells, fun g hsquare hcell ↦ ?_⟩
  rw [Graph.rows_eq_leading hsquare hcell]
  exact matrix_eq hused title

namespace Sample

/-- Three rows and columns, of which two are drawn. -/
def rows : List (List Bool) :=
  [[false, true, true], [false, false, true], [true, true, true]]

def grid : Value :=
  .list (rows.map fun row ↦ .list (row.map .truth))

def isMarked (i j : Nat) : Bool :=
  (rows.getD i []).getD j false

/-- Two rows and three columns in an array, of which as many are drawn. -/
def cells : List Bool :=
  [false, true, true, false, false, true]

def storedGrid : Value :=
  .array .truth [2, 3] (cells.map .truth)

def isStored (i j : Nat) : Bool :=
  cells.getD (i * 3 + j) false

def world : World Caller where
  journal := { disabling := .truth false }
  caller := {}

end Sample

theorem drawMatrix_aligned_sample :
    let block := "    | 0 1\n---------\na   | . 1\nbcd | . ."
    let drawn := (.ok (),
      { Sample.world with journal := Sample.world.journal.withBlock "Conflicts" block })
    let labels : Value := .list [.text "a", .text "bcd"]
    (Aligned ["a", "bcd"] Sample.isMarked block ∧
      drawMatrix Naming.byVertex.name Sample.grid labels (.text "Conflicts") Sample.world = drawn) ∧
    Aligned ["a", "bcd"] Sample.isStored block ∧
      drawMatrix Naming.byVertex.name Sample.storedGrid labels (.text "Conflicts") Sample.world =
        drawn := by
  have hlabels : (Value.list [.text "a", .text "bcd"]).elements? =
      .ok [.text "a", .text "bcd"] := rfl
  have hnames : [.text "a", .text "bcd"].mapM Naming.byVertex.name =
      .ok (["a", "bcd"].map Value.text) := rfl
  have hgrid : Sample.grid.HasCells 2 Sample.isMarked :=
    Value.hasCells_list (by decide) (by decide)
  have hstored : Sample.storedGrid.HasCells 2 Sample.isStored :=
    Value.hasCells_array .truth rfl (by decide) (by decide)
  have hblock : blockOf ["a", "bcd"] Sample.isMarked =
      "    | 0 1\n---------\na   | . 1\nbcd | . ." := by decide
  have hsame : blockOf ["a", "bcd"] Sample.isStored =
      "    | 0 1\n---------\na   | . 1\nbcd | . ." := by decide
  have hused : Sample.world.journal.disabled = false := rfl
  obtain ⟨haligned, hdrawn, -⟩ := drawMatrix_aligned "Conflicts" hused rfl hlabels
    (List.cons_ne_nil _ _) hnames (by decide) hgrid
  obtain ⟨haligned', hdrawn', -⟩ := drawMatrix_aligned "Conflicts" hused rfl hlabels
    (List.cons_ne_nil _ _) hnames (by decide) hstored
  rw [hblock] at haligned hdrawn
  rw [hsame] at haligned' hdrawn'
  exact ⟨⟨haligned, hdrawn⟩, haligned', hdrawn'⟩

end Journal

end Loadout
