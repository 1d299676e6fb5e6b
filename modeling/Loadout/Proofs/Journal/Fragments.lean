import Loadout.Journal.Transcript
import Loadout.Proofs.Journal.Forest
import Mathlib.Data.List.Forall2

/-!
# Fragments as forests

Notes, results, headings, tables and matrices are blocks: each is a forest of its own, and its tags
are known without its texts.  The beginning and the end of a section are halves of an element.
-/

namespace Loadout

open Markup
open Text (escape escape_append escape_newline)

/-! ## The elements of a page -/

namespace Markup.Element

def content : Element := { name := "div", attributes := " class=\"content\"" }

def division : Element := { name := "section", attributes := " class=\"section\"" }

def divisionTitle : Element := { name := "h3" }

def note (severity : Severity) : Element where
  name := "p"
  attributes := " class=\"" ++ Fragment.noteClass severity ++ "\""
  isApart := by cases severity <;> decide
  isInside := by cases severity <;> decide

def result : Element := { name := "div", attributes := " class=\"result\"" }

def resultName : Element := { name := "strong" }

def heading : Element := { name := "h4" }

def tableContainer : Element := { name := "div", attributes := " class=\"table-container\"" }

def table : Element := { name := "table" }

def head : Element := { name := "thead" }

def body : Element := { name := "tbody" }

def row : Element := { name := "tr" }

def headCell : Element := { name := "th" }

def cell : Element := { name := "td" }

def matrixContainer : Element := { name := "div", attributes := " class=\"matrix-container\"" }

def matrixBlock : Element := { name := "pre" }

end Markup.Element

/-! ## The shape of a table -/

/-- How many heads a table has, if it has a head at all, and how many cells each of its rows. -/
structure Shape where
  heads : Option Nat
  rows : List Nat
deriving DecidableEq, Repr

def Shape.of (headers : Option (List String)) (rows : List (List String)) : Shape where
  heads := headers.map List.length
  rows := rows.map List.length

/-- The shape of some lists of heads and cells.  Without a single head there is no head. -/
def Shape.ofLists {α : Type} (heads : List α) (rows : List (List α)) : Shape where
  heads := if heads.isEmpty then none else some heads.length
  rows := rows.map List.length

namespace Markup

/-! ## Tags without texts -/

/-- The tags of empty elements, one after the other. -/
def repeated (e : Element) (count : Nat) : List Tag :=
  (List.replicate count (e.around [])).flatten

def noteTags (severity : Severity) : List Tag :=
  (Element.note severity).around []

def resultTags : List Tag :=
  Element.result.around (Element.resultName.around [])

def headingTags : List Tag :=
  Element.heading.around []

def headTags (heads : Option Nat) : List Tag :=
  match heads with
  | none => []
  | some count => Element.head.around (Element.row.around (repeated .headCell count))

def tableTags (shape : Shape) : List Tag :=
  Element.tableContainer.around <| Element.table.around <|
    headTags shape.heads ++ Element.body.around
      (shape.rows.flatMap fun count ↦ Element.row.around (repeated .cell count))

def matrixTags (titled : Bool) : List Tag :=
  Element.matrixContainer.around <|
    (if titled then headingTags else []) ++ Element.matrixBlock.around []

/-- The tags where a section begins. -/
def sectionTags : List Tag :=
  Element.division.openingTag :: Element.divisionTitle.around []

/-! ## Lines -/

/-- The text of some lines, each of which is ended. -/
def ended : List String → String
  | [] => ""
  | line :: rest => line ++ "\n" ++ ended rest

theorem ended_append (xs ys : List String) : ended (xs ++ ys) = ended xs ++ ended ys := by
  induction xs with
  | nil => exact String.empty_append.symm
  | cons x xs ih => rw [List.cons_append, ended, ended, ih, ← String.append_assoc]

/-- Lines are joined by ending all but the last. -/
theorem intercalate_concat (xs : List String) (x : String) :
    "\n".intercalate (xs ++ [x]) = ended xs ++ x := by
  induction xs with
  | nil => simp [ended]
  | cons y ys ih =>
    rw [List.cons_append, String.intercalate_cons_of_ne_nil (by simp), ih, ended,
      ← String.append_assoc]

namespace Forest

/-- Forests as lines, each of which is ended. -/
def lines : List Forest → Forest
  | [] => nil
  | f :: rest => f ++ ofText "\n" ++ lines rest

theorem markup_lines (fs : List Forest) : (lines fs).markup = ended (fs.map markup) := by
  induction fs with
  | nil => rfl
  | cons f fs ih => simp [lines, ended, ih, escape_newline]

theorem markup_lines_append (fs gs : List Forest) :
    (lines (fs ++ gs)).markup = (lines fs).markup ++ (lines gs).markup := by
  rw [markup_lines, List.map_append, ended_append, ← markup_lines, ← markup_lines]

theorem tags_lines (fs : List Forest) : (lines fs).tags = fs.flatMap tags := by
  induction fs with
  | nil => rfl
  | cons f fs ih => simp [lines, ih]

/-- A row of cells between the tags of an element, on lines of their own. -/
def cells (e : Element) (texts : List String) : Forest :=
  ofText "\n" ++ lines (texts.map fun text ↦ within e (ofText text))

theorem markup_cells (e : Element) (texts : List String) :
    (cells e texts).markup
      = "\n" ++ ended (texts.map fun text ↦ e.opening ++ escape text ++ e.closing) := by
  simp [cells, markup_lines, escape_newline, Function.comp_def]

theorem tags_cells (e : Element) (texts : List String) :
    (cells e texts).tags = repeated e texts.length := by
  simp [cells, tags_lines, repeated, List.flatMap_def, Function.comp_def, List.map_const']

end Forest

end Markup

/-! ## Blocks -/

open Forest (within ofText lines cells)

/-- The lines of the head of a table. -/
def headForest : Option (List String) → List Forest
  | none => []
  | some headers => [within .head (within .row (cells .headCell headers))]

def tableForest (headers : Option (List String)) (rows : List (List String)) : Forest :=
  within .tableContainer <| ofText "\n" ++ lines [within .table <| ofText "\n" ++ lines
    (headForest headers ++
      [within .body (ofText "\n" ++ lines (rows.map fun row ↦ within .row (cells .cell row)))])]

/-- The forest of a block. -/
def Fragment.forest? : Fragment → Option Forest
  | .note severity text => some (within (.note severity) (ofText text))
  | .result name value =>
    some (within .result (within .resultName (ofText (name ++ ":")) ++ ofText (" " ++ value)))
  | .heading title => some (within .heading (ofText title))
  | .table headers rows => some (tableForest headers rows)
  | .matrix title block => some <| within .matrixContainer <|
    (if title.isEmpty then .nil else within .heading (ofText title))
      ++ within .matrixBlock (ofText block)
  | .sectionStart _ | .sectionEnd | .markup _ | .foreign _ => none

theorem ended_rowLines (row : List String) :
    ended (Fragment.rowLines row) = (within .row (cells .cell row)).markup ++ "\n" := by
  rw [Fragment.rowLines, List.cons_append, ended, ended_append]
  simp only [ended, Forest.markup_within, Forest.markup_cells, String.append_assoc]
  rfl

theorem ended_rows (rows : List (List String)) :
    ended (rows.flatMap Fragment.rowLines)
      = (lines (rows.map fun row ↦ within .row (cells .cell row))).markup := by
  induction rows with
  | nil => rfl
  | cons row rows ih =>
    rw [List.flatMap_cons, ended_append, ended_rowLines, ih, List.map_cons, lines]
    simp [escape_newline]

theorem ended_headLines (headers : List String) :
    ended (Fragment.headLines headers) = (lines (headForest (some headers))).markup := by
  rw [Fragment.headLines, List.cons_append, ended, ended_append]
  simp only [headForest, lines, ended, Forest.markup_append, Forest.markup_within,
    Forest.markup_cells, Forest.markup_ofText, Forest.markup_nil, escape_newline,
    String.append_assoc]
  rfl

theorem tableMarkup_eq (headers : Option (List String)) (rows : List (List String)) :
    Fragment.tableMarkup headers rows = (tableForest headers rows).markup := by
  obtain ⟨head, hlines, hhead⟩ : ∃ head, Fragment.tableLines headers rows
      = (["<div class=\"table-container\">", "<table>"] ++ head ++ ["<tbody>"]
          ++ rows.flatMap Fragment.rowLines ++ ["</tbody>", "</table>"]) ++ ["</div>"]
      ∧ ended head = (lines (headForest headers)).markup := by
    cases headers with
    | none => exact ⟨[], by simp [Fragment.tableLines], rfl⟩
    | some headers =>
      exact ⟨_, by simp [Fragment.tableLines], ended_headLines headers⟩
  rw [Fragment.tableMarkup, hlines, intercalate_concat]
  simp only [ended_append, hhead, ended_rows, tableForest, Forest.markup_lines_append, lines, ended,
    Forest.markup_append, Forest.markup_within, Forest.markup_ofText, Forest.markup_nil,
    escape_newline, String.append_assoc, String.append_empty]
  rfl

/-- The markup of a block is the markup of its forest. -/
theorem html_of_forest {f : Fragment} {m : Forest} (h : f.forest? = some m) :
    f.html = .ok m.markup := by
  cases f with
  | note severity text =>
    cases h
    -- the class of a note is put together from its severity
    cases severity <;> simp only [Fragment.html, Forest.markup_within, Forest.markup_ofText] <;> rfl
  | result name value =>
    cases h
    simp only [Fragment.html, Forest.markup_within, Forest.markup_ofText, Forest.markup_append,
      escape_append, String.append_assoc]
    rfl
  | heading title =>
    cases h
    simp only [Fragment.html, Forest.markup_within, Forest.markup_ofText]
    rfl
  | table headers rows =>
    cases h
    exact congrArg Except.ok (tableMarkup_eq headers rows)
  | matrix title block =>
    cases h
    simp only [Fragment.html]
    split <;> simp only [Forest.markup_within, Forest.markup_ofText, Forest.markup_append,
      Forest.markup_nil, String.append_assoc]
    · rfl
    · rfl
  | sectionStart | sectionEnd | markup | «foreign» => exact nomatch h

/-! ## The tags of blocks -/

theorem tags_tableForest (headers : Option (List String)) (rows : List (List String)) :
    (tableForest headers rows).tags = tableTags (.of headers rows) := by
  have hhead : (headForest headers).flatMap Forest.tags = headTags (headers.map List.length) := by
    cases headers with
    | none => rfl
    | some headers => simp [headForest, headTags, Forest.tags_cells]
  have hrows : (rows.map fun row ↦ within .row (cells .cell row)).flatMap Forest.tags
      = (rows.map List.length).flatMap fun count ↦ Element.row.around (repeated .cell count) := by
    simp [List.flatMap_map, Forest.tags_cells]
  simp [tableForest, tableTags, Shape.of, Forest.tags_lines, hhead, hrows]

/-- The tags of a block. -/
def Fragment.blockTags? (f : Fragment) : Option (List Tag) :=
  f.forest?.map Forest.tags

namespace Fragment

@[simp] theorem blockTags?_note (severity : Severity) (text : String) :
    (note severity text).blockTags? = some (noteTags severity) := rfl

@[simp] theorem blockTags?_result (name value : String) :
    (result name value).blockTags? = some resultTags := rfl

@[simp] theorem blockTags?_heading (title : String) :
    (heading title).blockTags? = some headingTags := rfl

@[simp] theorem blockTags?_table (headers : Option (List String)) (rows : List (List String)) :
    (table headers rows).blockTags? = some (tableTags (.of headers rows)) :=
  congrArg some (tags_tableForest headers rows)

@[simp] theorem blockTags?_matrix (title block : String) :
    (matrix title block).blockTags? = some (matrixTags !title.isEmpty) := by
  rw [blockTags?, forest?, Option.map_some, matrixTags]
  cases title.isEmpty <;> simp [headingTags]

end Fragment

end Loadout
