import Loadout.Text.Blank
import Loadout.Text.Escape
import Loadout.Text.LetterCase
import Loadout.Value.Arithmetic

/-! # Columns of values

When a table is laid out, each of its columns is written in one form, the widest that a cell of it
asks for: truth values, whole numbers, real numbers, bytes or texts.  A text that holds a numeral asks
for the form of a number, and an empty one for none; escape sequences do not count.  In a column of real
numbers all cells are read as real numbers, which can fail: a whole number may be too large.  A text that
is no numeral stays as it is.  In a table with escape sequences a numeral is written in its place among
them, which cannot be done in bytes.
-/

namespace Loadout

/-- How the cells of a column are written. -/
inductive Form
  | blank
  | truth
  | whole
  | real
  | bytes
  | text
deriving DecidableEq, Repr

namespace Form

def width : Form → Nat
  | blank => 0
  | truth => 1
  | whole => 2
  | real => 3
  | bytes => 4
  | text => 5

/-- The wider of two forms. -/
def join (f g : Form) : Form :=
  if f.width ≤ g.width then g else f

theorem width_join (f g : Form) : (f.join g).width = max f.width g.width := by
  unfold join
  split <;> omega

/-- Leave out groups of three digits with a comma before each. -/
def dropGroups : List Char → List Char
  | ',' :: a :: b :: c :: cs =>
    if a.isDigit && b.isDigit && c.isDigit then dropGroups cs else ',' :: a :: b :: c :: cs
  | cs => cs

/-- Leave out a line break at the end. -/
def dropLineBreak (cs : List Char) : List Char :=
  if cs.getLast? = some '\n' then cs.dropLast else cs

/-- The form of a numeral in which commas may stand between groups of three digits.  A line break may
follow, and may stand alone. -/
def ofGrouped? (s : String) : Option Form :=
  let (_, cs) := Number.splitSign (dropLineBreak s.toList)
  let first := cs.takeWhile Char.isDigit
  if s = "\n" then some whole
  else if first.isEmpty || 3 < first.length then none
  else
    match dropGroups (cs.dropWhile Char.isDigit) with
    | [] => some whole
    | '.' :: fraction => if fraction.all Char.isDigit then some real else none
    | _ => none

/-- The form of a whole or real numeral, other texts having another form. -/
def ofNumeral (s : String) (other : Form) (words : List String) : Form :=
  if (Number.integer? s).isSome ∧ Number.digitCount s ≤ Number.digitLimit then whole
  else
    match Number.real? s with
    | none => other
    | some x =>
      if x.isFinite || words.contains (String.ofList (Text.lower s.toList)) then real else other

/-- The words that stand for real numbers where a numeral is expected. -/
def realWords : List String :=
  ["inf", "-inf", "nan"]

/-- The names of the truth values. -/
def truthWords : List String :=
  ["True", "False"]

/-- The form that a text asks for. -/
def ofText (s : String) : Form :=
  if s.isEmpty then blank
  else if truthWords.contains s then truth
  else ofNumeral s ((ofGrouped? s).getD text) realWords

/-- The form that bytes ask for, each of them read as a character. -/
def ofBytes (cs : List Char) : Form :=
  if cs.isEmpty then blank
  else if cs.all (·.toNat < 0x80) then ofNumeral (String.ofList cs) bytes []
  else bytes

/-- A text without its escape sequences. -/
def bareText (s : String) : String :=
  String.ofList (Text.withoutEscapes Text.isWordChar s.toList)

/-- Bytes without their escape sequences, each byte read as a character. -/
def bareBytes (bs : List UInt8) : List Char :=
  Text.withoutEscapes Text.isAsciiWordChar (bs.map fun b => Char.ofNat b.toNat)

/-- The form that a value asks for. -/
def ofValue : Value → Form
  | .nothing => blank
  | .truth _ => truth
  | .integer _ | .word _ => whole
  | .real _ | .undefined _ | .machine _ => real
  | .text s => ofText (bareText s)
  | .bytes bs => ofBytes (bareBytes bs)
  | _ => text

/-- The form of a column. -/
def ofColumn (cells : List Value) : Form :=
  cells.foldl (fun form cell => form.join (ofValue cell)) truth

end Form

namespace Value

/-- Whether bytes hold a real numeral. -/
def holdsNumeral (bs : List UInt8) : Bool :=
  let cs := Form.bareBytes bs
  cs.all (·.toNat < 0x80) && (Number.real? (String.ofList cs)).isSome

/-- Succeeds for a cell that can be written in a column of real numbers, in a table with or without
escape sequences. -/
def beWrittenReal (escaped : Bool) : Value → Except Failure Unit
  | nothing | text _ => .ok ()
  | bytes bs => if escaped && holdsNumeral bs then .error .bytesExpected else .ok ()
  | v => do let _ ← v.measure

/-- Succeeds for a cell that can be written in a column of some form. -/
def beWritten (form : Form) (escaped : Bool) (v : Value) : Except Failure Unit :=
  if form = .real then v.beWrittenReal escaped else .ok ()

/-- The columns of a table, in which short rows are filled up with nothing. -/
def columns (rows : List (List Value)) : List (List Value) :=
  let width := (rows.map List.length).foldl max 0
  (List.range width).map fun j => rows.map fun row => row.getD j nothing

/-- Succeeds for rows whose columns can all be written. -/
def beLaidOut (escaped : Bool) (rows : List (List Value)) : Except Failure Unit :=
  (columns rows).forM fun column => column.forM (beWritten (Form.ofColumn column) escaped)

/-- The sign in the first or second cell that makes a rule of a row. -/
def ruleSign : Char := '\x01'

/-- Whether a row of a table stands for a rule between rows. -/
def isRule : Value → Bool
  | list xs => (xs.take 2).any fun x =>
    match x with
    | text s => Text.trim s.toList == [ruleSign]
    | _ => false
  | text s => (s.toList.take 2).contains ruleSign
  | _ => false

end Value

end Loadout
