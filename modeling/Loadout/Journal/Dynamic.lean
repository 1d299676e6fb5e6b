import Loadout.Journal.Page
import Loadout.Journal.Signature
import Loadout.Selection.Basic
import Loadout.Settings
import Loadout.Value.Buffer
import Loadout.Value.Intersection

/-! # Journalling values

Values of all kinds can be written to a journal.  A record holds the wording of a value, but only a
text can be escaped for the transcript; so a value that is no text is recorded, and then fails.  What
was written before a failure stays.  How a table of values is laid out as text is left open.
-/

namespace Loadout

/-- What lays out a table of values under heads, in a style and with alignments.  Iterators among the
values are read. -/
abbrev Typesetter := (data heads style alignments : Value) → Call Caller Unit

namespace Journal

open Value

/-- Why a value that is no text cannot be escaped. -/
def notEscapable : Value → Failure
  | .bytes _ => .bytesExpected
  | v =>
    match v.member "replace" with
    | .ok x => .notInvocable x.kind
    | .error e => e

/-- A value that can be escaped. -/
def escapable : Value → Except Failure String
  | .text s => .ok s
  | v => .error (notEscapable v)

/-- Record a message, of which the wording is needed only if the level admits it. -/
def emitValue (severity : Severity) (message : Value) : Run Caller Unit := do
  if (← Run.journal).admits severity then
    let wording ← Run.ofExcept message.wording
    Run.write (.emit severity wording)

/-- Note a message of any kind. -/
def noteValue (severity : Severity) (message : Value) : Run Caller Unit :=
  Run.journalled do
    emitValue severity message
    let text ← Run.ofExcept (escapable message)
    Run.write (.append (.note severity text))

/-- Start a section with a title of any kind. -/
def openSectionValue (title : Value) : Run Caller Unit :=
  Run.journalled do
    Run.write .closeSection
    let wording ← Run.ofExcept title.wording
    Run.write (.emit .info (sectionBanner wording))
    let text ← Run.ofExcept (escapable title)
    Run.write fun j => { j with transcript := j.transcript.openSection text }

def resultValue (name value : Value) : Run Caller Unit :=
  Run.journalled do
    let nameWording ← Run.ofExcept name.wording
    let valueWording ← Run.ofExcept value.wording
    Run.write (.emit .info (nameWording ++ ": " ++ valueWording))
    let text ← Run.ofExcept (escapable name)
    Run.write (.append (.result text valueWording))

/-- Add markup as it is. -/
def markupValue (html : Value) : Run Caller Unit :=
  Run.journalled <| Run.write <| append <|
    match html with
    | .text s => .markup s
    | v => .foreign v.kind

/-- Note how a component is dealt with; an unknown strategy is passed over. -/
def componentValue (number size strategy : Value) : Run Caller Unit :=
  Run.journalled do
    let strategy? := match strategy with
      | .text s => Strategy.ofName? s
      | _ => none
    match strategy? with
    | none => pure ()
    | some strategy =>
      let number ← Run.ofExcept number.wording
      let size ← if strategy = .exhaustive then Run.ofExcept size.wording else pure ""
      Run.write (.note .info (strategy.sentence number size))

def improvementValue (weight size : Value) : Run Caller Unit :=
  Run.journalled do
    let size ← Run.ofExcept size.wording
    let weight ← Run.ofExcept weight.weightText
    Run.write (.note .debug (improvementSentence weight size))

def reductionValue (stage before after : Value) : Run Caller Unit :=
  Run.journalled do
    let removed ← Run.ofExcept (before.sub after)
    let stage ← Run.ofExcept stage.wording
    if ← Run.ofExcept removed.truth? then
      let before ← Run.ofExcept before.wording
      let after ← Run.ofExcept after.wording
      let removed ← Run.ofExcept removed.wording
      Run.write (.note .info (reductionSentence stage before after removed))
    else
      let after ← Run.ofExcept after.wording
      Run.write (.note .info (noReductionSentence stage after))

/-- The head and the rows of a table of values.  Headers that count as false are none. -/
def tableParts (data headers : Value) :
    Call Caller (Option (List String) × List (List String)) := do
  let head ← if headers.isTrue then some <$> wordings headers else pure none
  let rows ← (← data.elements).mapM wordings
  return (head, rows)

/-- The markup of a table of values. -/
def tableMarkupValue (data headers : Value) : Run Caller Value := do
  let (head, rows) ← Run.ask (tableParts data headers)
  return .text (Fragment.tableMarkup head rows)

/-- Write a table of values in some style.  It is laid out before it is recorded. -/
def tableValue (typeset : Typesetter) (data headers title style alignments : Value) :
    Run Caller Unit :=
  Run.journalled do
    let headers := if headers.isNothing then .list [] else headers
    if title.isTrue then
      let wording ← Run.ofExcept title.wording
      Run.write (.emit .info (titleLine wording))
      let text ← Run.ofExcept (escapable title)
      Run.write (.append (.heading text))
    Run.ask (typeset data headers style alignments)
    let style ← Run.ofExcept style.wording
    Run.write (.emit .info (tableRecord style))
    let (head, rows) ← Run.ask (tableParts data headers)
    Run.write (.append (.table head rows))

/-- How the labels of a matrix are made into names. -/
inductive Naming
  | byVertex
  | inCapitals
  | shown
  | bySize
deriving DecidableEq, Repr

/-- The name of a label, which a size is not. -/
def Naming.name : Naming → Value → Except Failure Value
  | byVertex, v => .text <$> v.vertexLabel
  | inCapitals, v => do return .text (String.ofList (Text.upper (← v.wording).toList))
  | shown, v => .text <$> v.shown
  | bySize, v => do return .integer (← v.size)

/-- A name must be a text, since its length is asked for. -/
def nameText : Value → Except Failure String
  | .text s => .ok s
  | v => .error (.noLength v.kind)

/-- The cells of a matrix of values, row by row. -/
def matrixCells (matrix : Value) (size : Nat) : Except Failure (List (List Bool)) :=
  (List.range size).mapM fun i => (List.range size).mapM fun j => do
    let row ← matrix.item i
    return (← row.item j).isTrue

/-- Draw a matrix of values whose labels are named in some way. -/
def drawMatrix (name : Value → Except Failure Value) (matrix labels title : Value) :
    Run Caller Unit :=
  Run.journalled do
    let size ← Run.ofExcept labels.size
    if size = 0 then
      return
    let labels ← Run.ask labels.elements
    let names ← Run.ofExcept (labels.mapM name)
    let names ← Run.ofExcept (names.mapM nameText)
    if title.isTrue then
      let wording ← Run.ofExcept title.wording
      Run.write (.emit .info (titleLine wording))
    let cells ← Run.ofExcept (matrixCells matrix names.length)
    let block := MatrixBlock.block names cells
    Run.write (.emit .info block)
    let title ← if title.isTrue then Run.ofExcept (escapable title) else pure ""
    Run.write (.append (.matrix title block))

def matrixValue (matrix labels : Value) (naming : Naming) (title : Value) : Run Caller Unit :=
  drawMatrix naming.name matrix labels title

/-- Set the level by a value. -/
def setLevelValue (level : Value) : Run Caller Unit := do
  let level ← Run.ofExcept (levelOf level)
  Run.write (.setLevel level)

/-- Put a journal to use on a console. -/
def toConsoleValue (level : Value) : Run Caller Unit := do
  Run.write .toConsole
  setLevelValue level

/-- Writing a page takes the place to write to, and perhaps a title. -/
def pageSignature : Signature where
  operation := "AlgorithmLogger.write_html"
  required := ["path"]
  optional := ["title"]

/-- The page of a journal under a title, or under its name if the title counts as false. -/
def pageValue (name : String) (title : Value) : Run Caller String := do
  let title ← if title.isTrue then Run.ofExcept (escapable title) else pure name
  Run.ofExcept (Page.html title (← Run.journal).transcript)

end Journal

/-- Lay out a table of texts in the usual style.  There is no iterator in it, so it does not matter
which of them the caller has. -/
def Typesetter.ofTexts (typeset : Typesetter) : Tabulator := fun heads rows =>
  (typeset (.list (rows.map fun row => .list (row.map .text))) (.list (heads.map .text))
    (.text Journal.gridStyle) .nothing {}).1

end Loadout
