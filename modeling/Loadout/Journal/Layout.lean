import Loadout.Journal.Style
import Loadout.Text.Utf8
import Loadout.Value.Column

/-! # Laying out a table

Before a table is recorded it is laid out as text.  That text is not kept, but laying it out may fail,
and it reads the iterators among rows and cells.  Neither the solvers nor the journal know how it is
done: `layOut` is what they are handed where they are put to use.

A table is given as a mapping of columns, or as rows, which can be mappings and equipment besides
sequences.  The heads of its columns are given too, or are taken from the keys or from the first row.
-/

namespace Loadout.Layout

open Value

/-- Where the heads of the columns come from. -/
inductive Heads
  | keys
  | firstRow
  | given (v : Value)
  | known (names : List String)

/-- Two texts stand for heads that are in the table. -/
def Heads.of : Value → Heads
  | text s => if s = "keys" then keys else if s = "firstrow" then firstRow else given (text s)
  | v => given v

/-- A table on its way: the heads, and rows of which each has cells as its elements. -/
structure Parts where
  heads : Heads
  rows : List Value

/-- The elements of something that must be a collection to be part of a table. -/
def tabular (v : Value) : Call Caller (List Value) := fun caller =>
  match v.elements caller with
  | (.ok xs, caller) => (.ok xs, caller)
  | (.error _, caller) => (.error .notTabular, caller)

/-- The rows that cross columns, as long as the longest column. -/
def crossing (columns : List (List Value)) : List Value :=
  (Value.columns columns).map tuple

/-- A table given as a mapping of columns. -/
def ofColumns (entries : List (Value × Value)) (heads : Heads) : Call Caller Parts := do
  let columns ← entries.mapM fun (_, column) => tabular column
  let heads ← match heads with
    | .keys => .ofExcept (.known <$> (entries.map (·.1)).mapM wording)
    | heads => pure heads
  return { heads, rows := crossing columns }

/-- The keys of a row. -/
def rowKeys : Value → Except Failure (List Value)
  | mapping entries => .ok (entries.map (·.1))
  | v => do throw (.notInvocable (← v.member "keys").kind)

/-- The value of a key, or another one. -/
def valueOf (entries : List (Value × Value)) (key other : Value) : Value :=
  ((entries.find? fun e => e.1 == key).map (·.2)).getD other

def cellOf (row key : Value) : Value :=
  match row with
  | mapping entries => valueOf entries key nothing
  | _ => nothing

/-- A table given as mappings, one for each row: the keys of all are its columns. -/
def ofMappings (first : Value) (rest : List Value) (heads : Heads) : Except Failure Parts := do
  let firstKeys ← rowKeys first
  let keys := (firstKeys ++ (← rest.mapM rowKeys).flatten).eraseDups
  let row (r : Value) : Value := list (keys.map (cellOf r))
  match heads with
  | .keys => return { heads := .known (← keys.mapM wording), rows := (first :: rest).map row }
  | .firstRow =>
    let names := match first with
      | mapping entries => keys.map fun k => valueOf entries k k
      | _ => keys
    let names ← if rest.isEmpty then pure [] else names.mapM wording
    return { heads := .known names, rows := rest.map row }
  | .given (mapping names) =>
    let names ← keys.mapM fun k => (valueOf names k k).wording
    return { heads := .known names, rows := (first :: rest).map row }
  | .given v => if v.isTrue then throw .notHeadsOfMappings
  | .known _ => pure ()
  return { heads, rows := (first :: rest).map row }

/-- What equipment is made of, by name. -/
def fieldNames : List String :=
  ["id", "name", "occupied_slots", "bonuses"]

/-- A table given as equipment, one piece for each row. -/
def ofEquipment (rows : List Value) (heads : Heads) : Except Failure Parts := do
  let heads := match heads with
    | .keys => .known fieldNames
    | heads => heads
  let rows ← rows.mapM fun row =>
    if isRule row then pure row else list <$> fieldNames.mapM row.member
  return { heads, rows }

/-- Whether something has keys and values. -/
def isKeyed : Value → Bool
  | mapping _ => true
  | v => (v.member "keys").isOk && (v.member "values").isOk

/-- A table given as rows. -/
def ofRows (rows : List Value) (heads : Heads) : Except Failure Parts := do
  match rows with
  | [] => return { heads := (match heads with | .keys => .known [] | heads => heads), rows }
  | first :: rest =>
    if isKeyed first then ofMappings first rest heads
    else if first.kind = .equipment then ofEquipment rows heads
    else
      match heads with
      | .keys =>
        let size ← first.size
        return { heads := .known ((List.range size).map fun (i : Nat) => Number.integerText i), rows }
      | heads => return { heads, rows }

/-- A table that is given as any value. -/
def ofValue (data : Value) (heads : Heads) : Call Caller Parts := do
  match data with
  | nothing => .ofExcept (ofRows [] heads)
  | mapping entries => ofColumns entries heads
  | data =>
    if isKeyed data then
      if (data.member "index").isOk then throw (.notIterable data.kind) else throw .notColumns
    .ofExcept (ofRows (← tabular data) heads)

/-- The names of the columns, and the rows below them. -/
def names (parts : Parts) : Call Caller (List String × List Value) := do
  match parts.heads, parts.rows with
  | .firstRow, [] => return ([], [])
  | .firstRow, first :: rest => return (← first.wordings, rest)
  | .given v, rows => return (← v.wordings, rows)
  | .known names, rows => return (names, rows)
  | .keys, rows => return ([], rows)

/-- A line of a table: a rule, in place of a row of some length, or the cells of a row. -/
inductive Line
  | rule (length : Nat)
  | cells (xs : List Value)

namespace Line

def length : Line → Nat
  | rule n => n
  | cells xs => xs.length

def cells? : Line → Option (List Value)
  | rule _ => none
  | cells xs => some xs

end Line

/-- The line of a row. -/
def lineOf (row : Value) : Call Caller Line := do
  if isRule row then return .rule (← .ofExcept row.size)
  let xs ← row.elements
  return if isRule (list xs) then .rule xs.length else .cells xs

/-- The characters of a cell. -/
def characters : Value → Except Failure (List Char)
  | bytes bs => .ok (Text.Utf8.decode bs)
  | v => String.toList <$> v.wording

/-- Whether there are escape sequences in a table, the heads and cells being taken for one text. -/
def areEscaped (heads : List String) (cells : List (List Char)) : Bool :=
  Text.hasEscapes Text.isWordChar (['\t'].intercalate (heads.map String.toList ++ cells))

/-- What is written in the place of a blank at the beginning of a row. -/
def blankMark : String := ".."

/-- Whether a cell is a text or bytes of blanks only. -/
def isBlankCell : Value → Bool
  | text s => s.toList.all Text.isBlank
  | bytes bs => bs.all fun b => b = 0x20 || 9 ≤ b && b ≤ 13
  | _ => false

/-- A row with a mark in the place of a blank at its beginning. -/
def markBlank : List Value → List Value
  | x :: xs => (if isBlankCell x then text blankMark else x) :: xs
  | [] => []

/-- Whether something has elements. -/
def isCollection : Value → Bool
  | iterator _ => true
  | v => v.elements?.isOk

/-- The alignments of columns that are given by a value. -/
def alignmentsOf : Value → Call Caller (List Value)
  | nothing => return []
  | v => if isCollection v then v.elements else throw .notAlignments

/-- How many columns are written: if there are heads, as many as have one.  Too few heads for the first
line are filled up. -/
def writtenColumns (heads columns : Nat) (lines : List Line) : Nat :=
  if heads = 0 then columns
  else min columns (max heads ((lines.head?.map Line.length).getD 0))

/-- Lay out a table. -/
def layOut (data heads style alignments : Value) : Call Caller Unit := do
  let (heads, rows) ← names (← ofValue data (.of heads))
  let lines ← rows.mapM lineOf
  let rows := lines.filterMap Line.cells?
  let cells ← .ofExcept (rows.flatten.mapM characters)
  .ofExcept style.beElement
  let style := Style.ofValue style
  let rows := if style.marksBlanks then rows.map markBlank else rows
  if !style.verbatim then .ofExcept (beLaidOut (areEscaped heads cells) rows)
  let alignments ← alignmentsOf alignments
  let columns := (columns rows).length
  if style.ruled && columns = 0 && lines.any (·.cells?.isNone) then
    throw (.outOfRange "list index")
  .ofExcept (style.beAligned columns (writtenColumns heads.length columns lines) alignments)

end Loadout.Layout
