/-! # Kinds of values

Every value has a kind.  Messages name it in one word; machine numbers and arrays of them have a longer
name, which is used where a value is asked for something that it cannot do.  In a calculation with
something that is no number, a machine number counts as an ordinary one.
-/

namespace Loadout

inductive Kind
  | nothing
  | truth
  | integer
  | word
  | real
  | machine
  | text
  | bytes
  | list
  | tuple
  | set
  | frozen
  | mapping
  | iterator
  | slot
  | equipment
  | thing
  | array
deriving DecidableEq, Repr

namespace Kind

def name : Kind → String
  | nothing => "NoneType"
  | truth => "bool"
  | integer => "int"
  | word => "int64"
  | real => "float"
  | machine => "float64"
  | text => "str"
  | bytes => "bytes"
  | list => "list"
  | tuple => "tuple"
  | set => "set"
  | frozen => "frozenset"
  | mapping => "dict"
  | iterator => "list_iterator"
  | slot => "EquipmentSlot"
  | equipment => "Equipment"
  | thing => "Thing"
  | array => "ndarray"

def longName : Kind → String
  | word => "numpy.int64"
  | machine => "numpy.float64"
  | array => "numpy.ndarray"
  | kind => kind.name

/-- What a value is taken for in a calculation with something that is no number. -/
def operand : Kind → Kind
  | word => integer
  | machine => real
  | kind => kind

end Kind

end Loadout
