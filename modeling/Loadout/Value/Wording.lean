import Loadout.Failure
import Loadout.Number.Compact
import Loadout.Value.Basic

/-! # Values in words

A value has three texts.  It is *shown* so that it can be told apart from values of other kinds: a
text in quotes, a collection in the brackets of its kind.  Its *wording* is what a sentence uses: a
text without quotes, equipment by its name.  Its *label* is what a table or a selection uses: the
bare name of a slot, and otherwise the wording.

An array has one text: its cells in brackets, one pair for each of its lengths.

A whole number of too many digits has no text, and neither has anything that holds one.

Labels of a set are listed in ascending order, so that the text is the same in whatever order the
elements come.
-/

namespace Loadout

namespace Value

open Number (integerText realText)

def commas (parts : List String) : String :=
  ", ".intercalate parts

/-- A sequence in round brackets; a comma marks the sequence of one. -/
def rounded : List String → String
  | [part] => "(" ++ part ++ ",)"
  | parts => "(" ++ commas parts ++ ")"

/-- A list of parts in braces. -/
def inBraces (parts : List String) : String :=
  "\x7b" ++ commas parts ++ "\x7d"

/-- Whole numbers that are written out are below this number in size. -/
def writtenBound : Nat :=
  Nat.pow 10 Number.digitLimit

/-- The digits of a whole number, of which there must not be too many. -/
def digits (n : Int) : Except Failure String :=
  if n.natAbs < writtenBound then .ok (integerText n) else .error .tooLongToWrite

/-- Cells in a number of brackets. -/
def bracketed (depth : Nat) (cells : List String) : String :=
  String.ofList (List.replicate depth '[') ++ " ".intercalate cells
    ++ String.ofList (List.replicate depth ']')

mutual

/-- A value, shown. -/
def shown : Value → Except Failure String
  | nothing => .ok "None"
  | truth b => .ok (if b then "True" else "False")
  | integer n => digits n
  | word n => do return "np.int64(" ++ (← digits n) ++ ")"
  | real x => .ok (realText x)
  | undefined _ => .ok "nan"
  | machine x => .ok ("np.float64(" ++ realText x ++ ")")
  | text s => .ok (Text.quote s)
  | bytes bs => .ok (Text.quoteBytes bs)
  | list xs => do return "[" ++ commas (← shownAll xs) ++ "]"
  | tuple xs => do return rounded (← shownAll xs)
  | set xs => if xs.isEmpty then .ok "set()" else do return inBraces (← shownAll xs)
  | frozen xs => shownFrozen xs
  | mapping entries => do return inBraces (← shownEntries entries)
  | iterator _ => .ok "<list_iterator object>"
  | slot s => .ok ("<EquipmentSlot." ++ s.name ++ ": '" ++ s.value ++ "'>")
  | equipment id name slots bonuses => do
    let id ← shown id
    let name ← shown name
    let slots ← shownFrozen slots
    let bonuses ← shownPairs bonuses
    return "Equipment(id=" ++ id ++ ", name=" ++ name ++ ", occupied_slots=" ++ slots
      ++ ", bonuses=" ++ rounded bonuses ++ ")"
  | thing .. => .ok "thing"
  | array _ shape cells => bracketed shape.length <$> shownCells cells

def shownAll : List Value → Except Failure (List String)
  | [] => .ok []
  | x :: xs => do return (← shown x) :: (← shownAll xs)

/-- The cells of an array: machine numbers bare, and other values as they are shown. -/
def shownCells : List Value → Except Failure (List String)
  | [] => .ok []
  | word n :: vs => do return (← digits n) :: (← shownCells vs)
  | machine x :: vs => do return Number.cellText x :: (← shownCells vs)
  | v :: vs => do return (← shown v) :: (← shownCells vs)

def shownFrozen : List Value → Except Failure String
  | [] => .ok "frozenset()"
  | x :: xs => do return "frozenset(" ++ inBraces ((← shown x) :: (← shownAll xs)) ++ ")"

def shownEntries : List (Value × Value) → Except Failure (List String)
  | [] => .ok []
  | (k, v) :: es => do return ((← shown k) ++ ": " ++ (← shown v)) :: (← shownEntries es)

def shownPairs : List (Value × Value) → Except Failure (List String)
  | [] => .ok []
  | (k, v) :: es => do return rounded [← shown k, ← shown v] :: (← shownPairs es)

end

/-- The wording of a value; equipment has one only if its name is a text. -/
def wording : Value → Except Failure String
  | text s => .ok s
  | word n => digits n
  | machine x => .ok (realText x)
  | slot s => .ok ("EquipmentSlot." ++ s.name)
  | equipment _ (text s) _ _ => .ok s
  | equipment _ name _ _ => .error (.unnamed name.kind)
  | v => v.shown

/-- The label of a value. -/
def label : Value → Except Failure String
  | slot s => .ok s.name
  | v => v.wording

end Value

/-- Labels in ascending order, in braces; a sign of its own stands for no labels at all. -/
def braced (labels : List String) : String :=
  if labels.isEmpty then "∅" else Value.inBraces (labels.mergeSort fun a b => !decide (b < a))

namespace Value

/-- The label of a vertex: its name if it carries one, and the labels of its elements if it is a
set. -/
def vertexLabel : Value → Except Failure String
  | set xs | frozen xs => braced <$> xs.mapM label
  | thing key attributes =>
    match attribute? attributes "name" with
    | some (text s) => .ok s
    | _ => (thing key attributes).label
  | v => v.label

end Value

end Loadout
