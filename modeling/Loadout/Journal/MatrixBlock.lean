/-! # Matrices as text

A matrix of truth values is drawn with one line for every row: its name, padded to the longest one,
a bar, and a mark for every column.  Above stand the numbers of the columns, of which only the last
digit is written so that all columns are one character wide, and a rule.
-/

namespace Loadout.MatrixBlock

/-- The length of the longest name. -/
def width (names : List String) : Nat :=
  (names.map String.length).foldl max 0

def pad (width : Nat) (name : String) : String :=
  name ++ String.ofList (List.replicate (width - name.length) ' ')

def separator : String := " | "

def header (names : List String) : String :=
  pad (width names) "" ++ separator
    ++ " ".intercalate ((List.range names.length).map fun j => toString (j % 10))

def rule (names : List String) : String :=
  String.ofList (List.replicate (header names).length '-')

def mark (cell : Bool) : String :=
  if cell then "1" else "."

def row (width : Nat) (name : String) (cells : List Bool) : String :=
  pad width name ++ separator ++ " ".intercalate (cells.map mark)

/-- The lines of the block for the given names and rows of cells. -/
def lines (names : List String) (cells : List (List Bool)) : List String :=
  header names :: rule names :: List.zipWith (row (width names)) names cells

def block (names : List String) (cells : List (List Bool)) : String :=
  "\n".intercalate (lines names cells)

end Loadout.MatrixBlock
