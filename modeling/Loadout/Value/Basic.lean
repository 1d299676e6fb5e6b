import Loadout.Slot
import Loadout.Value.CellForm
import Loadout.Value.Kind

/-! # Values

What can be handed to a solver as a vertex, a weight, a label or a setting.  Vertices of a graph may
be of any kind, and of several kinds at once.

Collections hold their elements in order.  The elements of a set and the keys of a mapping are
pairwise different; whoever builds one sees to that.  An undefined number is the same only as
itself, so every one has a label of its own, and so does every iterator, whose elements are kept by
the caller.

A machine word is handed over as such; the other machine numbers come of calculating with words, and
so do arrays of them, whose cells are listed row by row.
-/

namespace Loadout

inductive Value
  | nothing
  | truth (b : Bool)
  | integer (n : Int)
  | word (n : Int)
  | real (x : Float)
  | undefined (label : Nat)
  | machine (x : Float)
  | text (s : String)
  | bytes (bs : List UInt8)
  | list (xs : List Value)
  | tuple (xs : List Value)
  | set (xs : List Value)
  | frozen (xs : List Value)
  | mapping (entries : List (Value × Value))
  | iterator (label : Nat)
  | slot (s : Slot)
  | equipment (id name : Value) (slots : List Value) (bonuses : List (Value × Value))
  | thing (key : String) (attributes : List (String × Value))
  | array (form : CellForm) (shape : List Nat) (cells : List Value)

namespace Value

instance : Inhabited Value := ⟨nothing⟩

def kind : Value → Kind
  | nothing => .nothing
  | truth _ => .truth
  | integer _ => .integer
  | word _ => .word
  | real _ | undefined _ => .real
  | machine _ => .machine
  | text _ => .text
  | bytes _ => .bytes
  | list _ => .list
  | tuple _ => .tuple
  | set _ => .set
  | frozen _ => .frozen
  | mapping _ => .mapping
  | iterator _ => .iterator
  | slot _ => .slot
  | equipment .. => .equipment
  | thing .. => .thing
  | array .. => .array

mutual

/-- Whether a value counts as true where a truth value is asked for: nothing, zeros and empty
collections do not.  Of an array this is asked only if it has one cell. -/
def isTrue : Value → Bool
  | nothing => false
  | truth b => b
  | integer n | word n => n != 0
  | real x | machine x => x != 0
  | text s => !s.isEmpty
  | bytes bs => !bs.isEmpty
  | list xs | tuple xs | set xs | frozen xs => !xs.isEmpty
  | mapping entries => !entries.isEmpty
  | array _ _ cells => isAnyTrue cells
  | undefined _ | iterator _ | slot _ | equipment .. | thing .. => true

def isAnyTrue : List Value → Bool
  | [] => false
  | v :: vs => v.isTrue || isAnyTrue vs

end

/-- Whether a value is nothing. -/
def isNothing : Value → Bool
  | nothing => true
  | _ => false

/-- What an object has under a name: of several, the last. -/
def attribute? (attributes : List (String × Value)) (name : String) : Option Value :=
  attributes.reverse.lookup name

end Value

end Loadout
