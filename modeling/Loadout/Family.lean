/-! # Families of failures

Failures fall into families, and families into wider ones, so that a caller can deal with a whole
family at once.  The nesting has no cycle: each step outwards lowers the depth.
-/

namespace Loadout

/-- The families that failures fall into.  Families are nested: see `Family.parents`. -/
inductive Family
  | any
  | anyException
  | exception
  | selection
  | graph
  | unknownVertex
  | invalidIndex
  | invalidArgument
  | lookup
  | index
  | key
  | value
  | type
  | member
  | arithmetic
  | overflow
  | zeroDivision
  | memory
  | assertion
  | exhausted
  | frozenField
  | wordType
deriving DecidableEq, Repr

namespace Family

/-- The families that directly contain a family. -/
def parents : Family → List Family
  | any => []
  | anyException => [any]
  | exception => [anyException]
  | selection => [exception]
  | graph => [selection]
  | unknownVertex => [graph, lookup]
  | invalidIndex => [graph, index]
  | invalidArgument => [selection, value]
  | lookup | value | type | member | arithmetic | memory | assertion | exhausted =>
    [exception]
  | index | key => [lookup]
  | overflow | zeroDivision => [arithmetic]
  | frozenField => [member]
  | wordType => [type]

/-- How deep a family is nested: a family's parents are nested less deeply. -/
def depth : Family → Nat
  | any => 0
  | anyException => 1
  | exception => 2
  | selection | lookup | value | type | member | arithmetic | memory | assertion | exhausted =>
    3
  | graph | index | key | overflow | zeroDivision | frozenField | wordType | invalidArgument => 4
  | unknownVertex | invalidIndex => 5

theorem depth_lt_of_mem_parents {f g : Family} (h : g ∈ f.parents) : g.depth < f.depth := by
  cases f <;> revert g <;> simp [parents, depth]

/-- Whether every failure of the family `f` is one of `g`. -/
def within (f g : Family) : Bool :=
  f == g || f.parents.attach.any fun p => p.1.within g
termination_by f.depth
decreasing_by exact depth_lt_of_mem_parents p.2

end Family

end Loadout
