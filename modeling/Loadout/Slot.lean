/-! # Slots

The places on a character where a piece of equipment can be worn.  A slot is named in capitals and
valued in small letters.
-/

namespace Loadout

inductive Slot
  | ammunition
  | body
  | cape
  | feet
  | hands
  | head
  | legs
  | neck
  | ring
  | shield
  | weapon
deriving DecidableEq, Repr

namespace Slot

/-- All slots, in their order of definition. -/
def all : List Slot :=
  [.ammunition, .body, .cape, .feet, .hands, .head, .legs, .neck, .ring, .shield, .weapon]

def name : Slot → String
  | ammunition => "AMMUNITION"
  | body => "BODY"
  | cape => "CAPE"
  | feet => "FEET"
  | hands => "HANDS"
  | head => "HEAD"
  | legs => "LEGS"
  | neck => "NECK"
  | ring => "RING"
  | shield => "SHIELD"
  | weapon => "WEAPON"

def value : Slot → String
  | ammunition => "ammunition"
  | body => "body"
  | cape => "cape"
  | feet => "feet"
  | hands => "hands"
  | head => "head"
  | legs => "legs"
  | neck => "neck"
  | ring => "ring"
  | shield => "shield"
  | weapon => "weapon"

def ofName? (s : String) : Option Slot :=
  all.find? fun slot => slot.name == s

def ofValue? (s : String) : Option Slot :=
  all.find? fun slot => slot.value == s

theorem mem_all (slot : Slot) : slot ∈ all := by
  cases slot <;> decide

theorem ofName?_name (slot : Slot) : ofName? slot.name = some slot := by
  cases slot <;> decide

theorem ofValue?_value (slot : Slot) : ofValue? slot.value = some slot := by
  cases slot <;> decide

end Slot

end Loadout
