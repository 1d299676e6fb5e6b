import Loadout.Failure

/-! # The catalog

The names that the library can be asked for.  Most stand for a definition, which is known by the
module and the name under which it is defined.  The others can be found too, but what is found there
is no definition, and asking for its module or its name fails.
-/

namespace Loadout

/-- A definition; what is built in may belong to no module. -/
structure Export where
  module : Option String
  name : String
deriving DecidableEq, Repr

/-- What stands under a name. -/
inductive CatalogEntry
  | definition (e : Export)
  | submodule (name : String)
  | object (kind missing : String)
deriving DecidableEq, Repr

namespace Catalog

/-- The name of the library, in which all modules are nested. -/
def library : String := "gearsetup"

def nested (name : String) : String :=
  library ++ "." ++ name

/-- The public definitions. -/
def definitions : List (String × Export) :=
  [("Graph", ⟨some (nested "graph.graph"), "Graph"⟩),
   ("IntersectionGraph", ⟨some (nested "graph.intersection_graph"), "IntersectionGraph"⟩),
   ("SolverConfig", ⟨some (nested "config"), "SolverConfig"⟩),
   ("Equipment", ⟨some (nested "gear.equipment"), "Equipment"⟩),
   ("EquipmentSlot", ⟨some (nested "gear.slots"), "EquipmentSlot"⟩),
   ("find_optimal_gear_setup", ⟨some (nested "gear.optimal_gear_setup"), "find"⟩),
   ("find_maximum_weight_independent_set", ⟨some (nested "solvers.mwis"), "find"⟩),
   ("find_maximum_weighted_disjoint_set", ⟨some (nested "solvers.disjoint_set"), "find"⟩),
   ("__getattr__", ⟨some library, "__getattr__"⟩),
   ("__class__", ⟨some "builtins", "module"⟩)]

/-- The functions that everything has, which belong to no module. -/
def builtIn : List String :=
  ["__dir__", "__format__", "__getstate__", "__init_subclass__", "__new__", "__reduce__",
   "__reduce_ex__", "__sizeof__", "__subclasshook__"]

def modules : List String :=
  ["config", "exceptions", "gear", "graph", "logger", "solvers"]

/-- The names that stand for plain objects, by their kind. -/
def objects : List (String × List String) :=
  [("list", ["__all__", "__path__"]),
   ("str", ["__cached__", "__doc__", "__file__", "__name__", "__package__"]),
   ("dict", ["__annotations__", "__builtins__", "__dict__"]),
   ("method-wrapper", ["__delattr__", "__eq__", "__ge__", "__getattribute__", "__gt__", "__hash__",
     "__init__", "__le__", "__lt__", "__ne__", "__repr__", "__setattr__", "__str__"])]

/-- The names that stand for objects that belong to a module but have no name of their own. -/
def nameless : List (String × List String) :=
  [("ModuleSpec", ["__spec__"]), ("SourceFileLoader", ["__loader__"])]

/-- The name of the module that something belongs to, and its own name. -/
def moduleMember : String := "__module__"

def nameMember : String := "__name__"

/-- The kind of the objects that stand under a name. -/
def kindOf? (kinds : List (String × List String)) (name : String) : Option String :=
  (kinds.find? fun k => k.2.contains name).map (·.1)

def entry? (name : String) : Option CatalogEntry :=
  ((definitions.lookup name).map .definition)
    <|> (if builtIn.contains name then some (.definition ⟨none, name⟩) else none)
    <|> (if modules.contains name then some (.submodule (nested name)) else none)
    <|> ((kindOf? objects name).map fun kind => .object kind moduleMember)
    <|> ((kindOf? nameless name).map fun kind => .object kind nameMember)

/-- The definition that stands under a name. -/
def find (name : String) : Except Failure Export :=
  match entry? name with
  | some (.definition e) => .ok e
  | some (.submodule m) => .error (.notExported m moduleMember)
  | some (.object kind missing) => .error (.noMember kind missing)
  | none => .error (.notExported library name)

end Catalog

end Loadout
