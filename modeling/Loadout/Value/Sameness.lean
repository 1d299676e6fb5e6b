import Loadout.Value.Basic
import Loadout.Number.Exact

/-! # Sameness of values

Two values are the same element of a collection when they are equal or one and the same object.
Numbers of all kinds are the same when their exact values are; sets are the same when they have the
same elements, in whatever order; mappings when they map the same keys to the same values.
-/

namespace Loadout

namespace Value

open Number (Exact)

/-- The exact value of a number; truth values count as one and zero. -/
def number? : Value → Option Exact
  | truth b => some (.ofInt b.toInt)
  | integer n | word n => some (.ofInt n)
  | real x | machine x => some (.ofFloat x)
  | undefined _ => some .undefined
  | _ => none

mutual

/-- Whether two values are the same element of a collection. -/
def same : Value → Value → Bool
  | nothing, nothing => true
  | undefined i, undefined j => i == j
  | text s, text t => s == t
  | bytes bs, bytes cs => bs == cs
  | list xs, list ys => sameAll xs ys
  | tuple xs, tuple ys => sameAll xs ys
  | set xs, set ys => xs.length == ys.length && allIn xs ys
  | set xs, frozen ys => xs.length == ys.length && allIn xs ys
  | frozen xs, set ys => xs.length == ys.length && allIn xs ys
  | frozen xs, frozen ys => xs.length == ys.length && allIn xs ys
  | mapping es, mapping fs => es.length == fs.length && entriesIn es fs
  | iterator i, iterator j => i == j
  | slot s, slot t => s == t
  | equipment i n ss bs, equipment i' n' ss' bs' =>
    same i i' && same n n' && (ss.length == ss'.length && allIn ss ss') && sameEntries bs bs'
  | thing k _, thing k' _ => k == k'
  | a, b =>
    match a.number?, b.number? with
    | some x, some y => x.agree y
    | _, _ => false

/-- Whether two lists have the same values at the same places. -/
def sameAll : List Value → List Value → Bool
  | [], [] => true
  | x :: xs, y :: ys => same x y && sameAll xs ys
  | _, _ => false

/-- Whether two lists of pairs have the same pairs at the same places. -/
def sameEntries : List (Value × Value) → List (Value × Value) → Bool
  | [], [] => true
  | (k, v) :: es, (k', v') :: fs => same k k' && same v v' && sameEntries es fs
  | _, _ => false

/-- Whether every value of the first list is in the second. -/
def allIn : List Value → List Value → Bool
  | [], _ => true
  | x :: xs, ys => ys.any (fun y => same x y) && allIn xs ys

/-- Whether every pair of the first list is in the second. -/
def entriesIn : List (Value × Value) → List (Value × Value) → Bool
  | [], _ => true
  | (k, v) :: es, fs => fs.any (fun f => same k f.1 && same v f.2) && entriesIn es fs

end

instance : BEq Value := ⟨same⟩

/-- The elements of a set of either kind. -/
def setElements? : Value → Option (List Value)
  | set xs | frozen xs => some xs
  | _ => none

end Value

end Loadout
