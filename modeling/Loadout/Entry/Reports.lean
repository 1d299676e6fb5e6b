import Loadout.Entry.Graph
import Loadout.Journal.Signature

/-! # Reporting by hand

The failures of a graph can be reported without one.
-/

namespace Loadout.Entry

def unknownVertexSignature : Signature where
  operation := "UnknownVertexError.raise_for"
  required := ["vertex"]
  unwritten := 0

def invalidIndexSignature : Signature where
  operation := "InvalidIndexError.raise_for"
  required := ["index", "size"]
  unwritten := 0

/-- Report that a value is not a vertex. -/
def reportUnknown (arguments : List Value) : Run Caller Unit := do
  let argument ← Run.ofExcept (unknownVertexSignature.bind arguments [])
  failUnknown ((argument "vertex").getD .nothing)

/-- Report that a value is not an index. -/
def reportIndex (arguments : List Value) : Run Caller Unit := do
  let argument ← Run.ofExcept (invalidIndexSignature.bind arguments [])
  failIndex ((argument "index").getD .nothing) ((argument "size").getD .nothing).wording

end Loadout.Entry
