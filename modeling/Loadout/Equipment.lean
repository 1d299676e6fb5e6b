import Loadout.Sort.Runs
import Loadout.Text.Blank
import Loadout.Text.LetterCase
import Loadout.Value.Arithmetic
import Loadout.Value.Caller
import Loadout.Value.Order

/-! # Equipment

A piece of equipment has an identifier, a name, the set of slots that it occupies, and bonuses, which
weight functions read.  Equipment built from loosely written slots and a mapping of bonuses is
canonical: slots that are spelled differently become the same slot, and the bonuses are sorted.
-/

namespace Loadout

structure Equipment where
  id : Value
  name : Value
  slots : List Value
  bonuses : List (Value × Value)

namespace Slot

/-- A slot read from its name or its value, in any letter case and with blanks around it. -/
def ofText (s : String) : Except Failure Slot :=
  let key := Text.trim s.toList
  match ofName? (String.ofList (Text.upper key)) with
  | some slot => .ok slot
  | none =>
    let small := String.ofList (Text.lower key)
    match ofValue? small with
    | some slot => .ok slot
    | none => .error (.unknownSlot (Text.quote small))

/-- A slot, or the slot that the wording of a value spells. -/
def ofSpelling : Value → Except Failure Slot
  | .slot s => .ok s
  | v => v.wording >>= ofText

end Slot

namespace Equipment

/-- A pair comes before another when its key does, or its bonus if the keys are alike. -/
def pairBelow (a b : Value × Value) : Except Failure Bool :=
  Value.compareAll .lt [a.1, a.2] [b.1, b.2]

/-- A bonus read as a real number.  An undefined one that is read from a text is a number of its
own. -/
def readBonus (v : Value) : Call Caller Value := do
  match ← .ofExcept v.toReal with
  | .real x => if x.isNaN then Value.freshUndefined else return .real x
  | v => return v

/-- Equipment from the spellings of its slots, of which there must be one, and its bonuses. -/
def create (id name : Value) (slots : List Value) (bonuses : List (Value × Value)) :
    Call Caller Equipment := do
  let occupied ← .ofExcept (slots.mapM Slot.ofSpelling)
  if occupied.isEmpty then
    let wording ← .ofExcept name.wording
    throw (.noSlots wording)
  let measured ← bonuses.mapM fun (key, bonus) => return (key, ← readBonus bonus)
  let sorted ← .ofExcept (Sort.sort pairBelow measured)
  return { id, name, slots := occupied.eraseDups.map .slot, bonuses := sorted }

/-- The bonus of a name, or zero. -/
def bonus (e : Equipment) (name : Value) : Except Failure Value := do
  match ← e.bonuses.findM? fun (key, _) => key.equal name with
  | some (_, value) => return value
  | none => return .real 0

/-- The sum of the named bonuses, each times its coefficient. -/
def weight (coefficients : List (Value × Value)) (e : Equipment) : Except Failure Value :=
  coefficients.foldlM (fun total (name, coefficient) => do
    let term ← coefficient.mul (← e.bonus name)
    total.add term) (.integer 0)

def toValue (e : Equipment) : Value :=
  .equipment e.id e.name e.slots e.bonuses

end Equipment

namespace Value

def equipment? : Value → Option Equipment
  | equipment id name slots bonuses => some { id, name, slots, bonuses }
  | _ => none

theorem equipment?_toValue (e : Equipment) : e.toValue.equipment? = some e := rfl

/-- The bonus of a name that a value has.  Only equipment has bonuses. -/
def bonusOf (v name : Value) : Except Failure Value :=
  match v.equipment? with
  | some e => e.bonus name
  | none => do throw (.notInvocable (← v.member "bonus").kind)

/-- The sum of a value's named bonuses, each times its coefficient. -/
def bonusWeight (coefficients : List (Value × Value)) (v : Value) : Except Failure Value :=
  match v.equipment?, coefficients with
  | some e, _ => e.weight coefficients
  | none, [] => .ok (.integer 0)
  | none, (name, _) :: _ => v.bonusOf name

end Value

end Loadout
