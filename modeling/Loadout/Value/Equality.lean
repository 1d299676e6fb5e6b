import Loadout.Value.Cells
import Loadout.Value.Sameness

/-! # Equality of values

Equality differs from sameness in three ways.  An undefined number is the same as itself, and equal to
nothing.  A machine number beside another number is rounded with it before the two are compared, so the
two can be equal without being the same; in a sequence that is compared place by place such numbers are
alike.  And beside a sequence a machine number is compared cell by cell, which is an answer only if there
is a single cell.
-/

namespace Loadout

namespace Value

/-- Whether two values of which none is a sequence or a record are equal. -/
def agree (a b : Value) : Except Failure Bool := do
  if a.meetInCells b then Cells.equal (← Cells.ofOperand a) (← Cells.ofOperand b)
  else
    match ← a.numbers? b with
    | some (x, y) => return x.agree y
    | none => return same a b

mutual

/-- Whether two values are one object or equal. -/
def alike : Value → Value → Except Failure Bool
  | undefined i, undefined j => .ok (i == j)
  | list xs, list ys => if xs.length = ys.length then alikeAll xs ys else .ok false
  | tuple xs, tuple ys => alikeAll xs ys
  | mapping es, mapping fs => if es.length = fs.length then alikeEntries es fs else .ok false
  | equipment i n ss bs, equipment i' n' ss' bs' => do
    if !(← alike i i') then return false
    if !(← alike n n') then return false
    if !(ss.length == ss'.length && allIn ss ss') then return false
    alikePairs bs bs'
  | a, b => a.agree b

/-- Whether two lists have alike values at the same places.  The places are gone through up to the first
difference. -/
def alikeAll : List Value → List Value → Except Failure Bool
  | [], [] => .ok true
  | x :: xs, y :: ys => do if ← alike x y then alikeAll xs ys else return false
  | _, _ => .ok false

/-- Whether two lists of pairs have alike pairs at the same places. -/
def alikePairs : List (Value × Value) → List (Value × Value) → Except Failure Bool
  | [], [] => .ok true
  | (k, v) :: es, (k', v') :: fs => do
    if !(← alike k k') then return false
    if !(← alike v v') then return false
    alikePairs es fs
  | _, _ => .ok false

/-- Whether for every pair of the first list the second has one with the same key and an alike
value. -/
def alikeEntries : List (Value × Value) → List (Value × Value) → Except Failure Bool
  | [], _ => .ok true
  | (k, v) :: es, fs =>
    match fs.find? fun f => same k f.1 with
    | some f => do if ← alike v f.2 then alikeEntries es fs else return false
    | none => .ok false

end

/-- Equality: an undefined number is equal to nothing, not even to itself. -/
def equal (a b : Value) : Except Failure Bool :=
  match a with
  | undefined _ => .ok false
  | _ => alike a b

/-- Whether two pairs of values are equal, the first values being compared first. -/
def equalPair (p q : Value × Value) : Except Failure Bool := do
  if ← p.1.equal q.1 then p.2.equal q.2 else return false

end Value

end Loadout
