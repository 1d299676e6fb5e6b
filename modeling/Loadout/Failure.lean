import Loadout.Family
import Loadout.Value.Kind
import Loadout.Text.Quoted
import Loadout.Number.ByteSize

/-! # Failures

Every way in which a computation can fail, by its cause, and the message of each.
-/

namespace Loadout

/-- The failures that a computation can end with. -/
inductive Failure
  -- graphs and entry points
  | unknownVertex (shown : String)
  | invalidIndex (shown size : String)
  | missing (argument : String)
  | notCallable (argument : String) (kind : Kind)
  | notCollection (argument : String) (kind : Kind)
  | noSlots (name : String)
  | unknownSlot (shown : String)
  -- failures of the caller's own functions
  | reported (family : Family) (message : String)
  -- what a value cannot do
  | unhashable (kind : Kind)
  | notIterable (kind : Kind)
  | noLength (kind : Kind)
  | notSubscriptable (kind : Kind)
  | notAssignable (kind : Kind)
  | noMember (owner member : String)
  | notInvocable (kind : Kind)
  | unnamed (kind : Kind)
  | notInteger (kind : Kind)
  -- numbers
  | notReal (kind : Kind)
  | notRealNumeral (shown : String)
  | notIntegerNumeral (shown : String)
  | tooManyDigits (count : Nat)
  | tooLongToWrite
  | tooLarge
  | tooLargeForWord
  | truthAsSize
  | negativeSize
  | sizeTooLarge
  | tableTooLarge
  | noRoomForTable (size : Nat)
  | unordered (symbol : String) (left right : Kind)
  | unsupported (symbol : String) (left right : Kind)
  | noOperation (name left right : String)
  | unequalShapes (left right : List Nat)
  | ragged (shape : List Nat)
  | tooDeep (most : Nat)
  | emptyTruth
  | ambiguousTruth
  | notScalar
  | unrepeatable (count : Kind)
  | uncountable
  | repeatedTooLong (what : String)
  | outOfMemory
  | noMagnitude (kind : Kind)
  | zeroModulus
  | placesOfText
  | noPlaces (kind : Kind)
  | tooFewForTemplate
  | tooManyForTemplate
  -- positions and keys
  | outOfBounds (index size : Nat)
  | outOfRange (place : String)
  | scalarIndex
  | noAxis
  | missingKey (shown : String)
  | exhausted
  | readOnly
  | frozenField (name : String)
  -- transcripts
  | notJoinable (position : Nat) (kind : Kind)
  | bytesExpected
  | notTabular
  | notColumns
  | notHeadsOfMappings
  | notAlignments
  | notALevel (shown : String)
  | unknownLevel (shown : String)
  | namelessLogger
  -- calls
  | unexpectedOption (operation name : String)
  | repeatedOption (operation name : String)
  | missingArguments (operation : String) (names : List String)
  | tooManyArguments (operation : String) (least most given : Nat)
  | notExported (module name : String)
  | nameNotText (kind : Kind)
deriving Repr, DecidableEq

namespace Failure

open Number (integerText)

/-- Names in a list, each quoted, with `and` before the last. -/
def enumerated : List String → String
  | [] => ""
  | [a] => Text.quote a
  | [a, b] => Text.quote a ++ " and " ++ Text.quote b
  | names => String.join ((names.dropLast.map fun n => Text.quote n ++ ", "))
      ++ "and " ++ Text.quote (names.getLastD "")

/-- The first 200 characters of a text, for a message that shall not grow with it. -/
def excerpt (s : String) : String :=
  String.ofList (s.toList.take 200)

def plural (n : Nat) : String :=
  if n = 1 then "" else "s"

/-- The lengths of an array in brackets, a comma marking a single one. -/
def lengths (separator : String) : List Nat → String
  | [n] => "(" ++ integerText n ++ ",)"
  | ns => "(" ++ separator.intercalate (ns.map fun (n : Nat) => integerText n) ++ ")"

/-- The message of a failure. -/
def message : Failure → String
  | unknownVertex shown => shown ++ " could not be found in the graph."
  | invalidIndex shown size =>
    shown ++ " is not a valid index for a graph with " ++ size ++ " vertices."
  | missing argument => argument ++ " must not be None."
  | notCallable argument kind => argument ++ " must be callable, got " ++ kind.name ++ "."
  | notCollection argument kind =>
    argument ++ " must be a collection of vertices, got " ++ kind.name ++ "."
  | noSlots name => name ++ " must occupy at least one slot."
  | unknownSlot shown => shown ++ " is not a valid EquipmentSlot"
  | reported .key text => Text.quote text
  | reported _ text => text
  | unhashable kind => "unhashable type: '" ++ kind.longName ++ "'"
  | notIterable kind => "'" ++ kind.longName ++ "' object is not iterable"
  | noLength kind => "object of type '" ++ kind.longName ++ "' has no len()"
  | notSubscriptable kind => "'" ++ kind.longName ++ "' object is not subscriptable"
  | notAssignable kind => "'" ++ kind.longName ++ "' object does not support item assignment"
  | noMember owner member => "'" ++ owner ++ "' object has no attribute '" ++ member ++ "'"
  | notInvocable kind => "'" ++ kind.longName ++ "' object is not callable"
  | unnamed kind => "__str__ returned non-string (type " ++ kind.longName ++ ")"
  | notInteger kind => "'" ++ kind.longName ++ "' object cannot be interpreted as an integer"
  | notReal kind =>
    "float() argument must be a string or a real number, not '" ++ kind.longName ++ "'"
  | notRealNumeral shown => "could not convert string to float: " ++ shown
  | notIntegerNumeral shown => "invalid literal for int() with base 10: " ++ excerpt shown
  | tooManyDigits count =>
    "Exceeds the limit (" ++ integerText Number.digitLimit
      ++ " digits) for integer string conversion: value has " ++ integerText count
      ++ " digits; use sys.set_int_max_str_digits() to increase the limit"
  | tooLongToWrite =>
    "Exceeds the limit (" ++ integerText Number.digitLimit
      ++ " digits) for integer string conversion;"
      ++ " use sys.set_int_max_str_digits() to increase the limit"
  | tooLarge => "int too large to convert to float"
  | tooLargeForWord => "Python int too large to convert to C long"
  | truthAsSize => "an integer is required"
  | negativeSize => "negative dimensions are not allowed"
  | sizeTooLarge => "Maximum allowed dimension exceeded"
  | tableTooLarge =>
    "array is too big; `arr.size * arr.dtype.itemsize` is larger than the maximum possible size."
  | noRoomForTable size =>
    "Unable to allocate " ++ Number.byteSize (size * size) ++ " for an array with shape ("
      ++ integerText size ++ ", " ++ integerText size ++ ") and data type bool"
  | unordered symbol left right =>
    "'" ++ symbol ++ "' not supported between instances of '" ++ left.longName ++ "' and '"
      ++ right.longName ++ "'"
  | unsupported symbol left right =>
    "unsupported operand type(s) for " ++ symbol ++ ": '" ++ left.longName ++ "' and '"
      ++ right.longName ++ "'"
  | noOperation name left right =>
    "ufunc " ++ Text.quote name ++ " did not contain a loop with signature matching types ("
      ++ left ++ ", " ++ right ++ ") -> None"
  | unequalShapes left right =>
    "operands could not be broadcast together with shapes " ++ lengths "," left ++ " "
      ++ lengths "," right ++ " "
  | ragged shape =>
    "setting an array element with a sequence. The requested array has an inhomogeneous shape after "
      ++ integerText shape.length ++ " dimensions. The detected shape was " ++ lengths ", " shape
      ++ " + inhomogeneous part."
  | tooDeep most =>
    "setting an array element with a sequence. "
      ++ "The requested array would exceed the maximum number of dimension of " ++ integerText most
      ++ "."
  | emptyTruth =>
    "The truth value of an empty array is ambiguous. "
      ++ "Use `array.size > 0` to check that an array is not empty."
  | ambiguousTruth =>
    "The truth value of an array with more than one element is ambiguous. Use a.any() or a.all()"
  | notScalar => "only 0-dimensional arrays can be converted to Python scalars"
  | unrepeatable count => "can't multiply sequence by non-int of type '" ++ count.longName ++ "'"
  | uncountable => "cannot fit 'int' into an index-sized integer"
  | repeatedTooLong what => "repeated " ++ what ++ " too long"
  | outOfMemory => ""
  | noMagnitude kind => "bad operand type for abs(): '" ++ kind.longName ++ "'"
  | zeroModulus => "integer modulo by zero"
  | placesOfText => "Unknown format code 'f' for object of type 'str'"
  | noPlaces kind => "unsupported format string passed to " ++ kind.longName ++ ".__format__"
  | tooFewForTemplate => "not enough arguments for format string"
  | tooManyForTemplate => "not all arguments converted during string formatting"
  | outOfBounds index size =>
    "index " ++ integerText index ++ " is out of bounds for axis 0 with size " ++ integerText size
  | outOfRange place => place ++ " out of range"
  | scalarIndex => "invalid index to scalar variable."
  | noAxis => "too many indices for array: array is 0-dimensional, but 1 were indexed"
  | missingKey shown => shown
  | exhausted => ""
  | readOnly => "assignment destination is read-only"
  | frozenField name => "cannot assign to field " ++ Text.quote name
  | notJoinable position kind =>
    "sequence item " ++ integerText position ++ ": expected str instance, " ++ kind.longName
      ++ " found"
  | bytesExpected => "a bytes-like object is required, not 'str'"
  | notTabular =>
    "\n\nTo build a table python-tabulate requires two-dimensional data like a list of lists or similar."
      ++ "\nDid you forget a pair of extra [] or ',' in ()?"
  | notColumns => "tabular data doesn't appear to be a dict or a DataFrame"
  | notHeadsOfMappings => "headers for a list of dicts is not a dict or a keyword"
  | notAlignments => ""
  | notALevel shown => "Level not an integer or a valid string: " ++ shown
  | unknownLevel shown => "Unknown level: " ++ shown
  | namelessLogger => "A logger name must be a string"
  | unexpectedOption operation name =>
    operation ++ "() got an unexpected keyword argument " ++ Text.quote name
  | repeatedOption operation name =>
    operation ++ "() got multiple values for argument " ++ Text.quote name
  | missingArguments operation names =>
    operation ++ "() missing " ++ integerText names.length ++ " required positional argument"
      ++ plural names.length ++ ": " ++ enumerated names
  | tooManyArguments operation least most given =>
    operation ++ "() takes "
      ++ (if least = most then "" else "from " ++ integerText least ++ " to ") ++ integerText most
      ++ " positional argument" ++ plural most ++ " but " ++ integerText given
      ++ (if given = 1 then " was given" else " were given")
  | notExported module name =>
    "module " ++ Text.quote module ++ " has no attribute " ++ Text.quote name
  | nameNotText kind => "attribute name must be string, not '" ++ kind.longName ++ "'"

/-- The family of a failure. -/
def family : Failure → Family
  | unknownVertex .. => .unknownVertex
  | invalidIndex .. => .invalidIndex
  | missing .. | notCallable .. | notCollection .. | noSlots .. => .invalidArgument
  | reported family _ => family
  | unknownSlot .. | notRealNumeral .. | notIntegerNumeral .. | tooManyDigits .. | tooLongToWrite
  | negativeSize | sizeTooLarge | tableTooLarge | placesOfText | readOnly | unknownLevel ..
  | notColumns | notHeadsOfMappings | unequalShapes .. | ragged .. | tooDeep .. | emptyTruth
  | ambiguousTruth => .value
  | tooLarge | tooLargeForWord | uncountable | repeatedTooLong .. => .overflow
  | outOfMemory | noRoomForTable .. => .memory
  | noOperation .. => .wordType
  | notAlignments => .assertion
  | zeroModulus => .zeroDivision
  | outOfBounds .. | outOfRange .. | scalarIndex | noAxis => .index
  | missingKey .. => .key
  | exhausted => .exhausted
  | noMember .. | notExported .. => .member
  | frozenField .. => .frozenField
  | _ => .type

end Failure

end Loadout
