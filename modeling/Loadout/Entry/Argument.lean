import Loadout.Value.Caller

/-! # Checking arguments

What is handed to a solver may be missing, or be of the wrong kind.  Functions are checked for being
functions; collections only for not being a bare text, whose characters nobody means as vertices.
-/

namespace Loadout

/-- Something handed over where a function is wanted: a function, or a value, which is none. -/
inductive Supplied (F : Type)
  | function (f : F)
  | value (v : Value)

namespace Supplied

variable {F : Type}

/-- The function that was handed over for an argument. -/
def require (argument : String) : Supplied F → Except Failure F
  | function f => .ok f
  | value .nothing => .error (.missing argument)
  | value v => .error (.notCallable argument v.kind)

/-- The function, or another one if nothing was handed over. -/
def requireOr (argument : String) (other : F) : Supplied F → Except Failure F
  | value .nothing => .ok other
  | supplied => supplied.require argument

theorem require_eq_ok_iff {argument : String} {supplied : Supplied F} {f : F} :
    supplied.require argument = .ok f ↔ supplied = function f := by
  cases supplied with
  | function g => simp [require]
  | value v => cases v <;> simp [require]

end Supplied

/-- A value that can be a collection of vertices. -/
def requireCollection (argument : String) : Value → Except Failure Value
  | .nothing => .error (.missing argument)
  | .text _ => .error (.notCollection argument .text)
  | .bytes _ => .error (.notCollection argument .bytes)
  | v => .ok v

/-- A function of one value. -/
abbrev ValueFunction := Value → Call Caller Value

/-- A function of two values. -/
abbrev ValueRelation := Value → Value → Call Caller Value

/-- Whether a relation holds. -/
def ValueRelation.holds (r : ValueRelation) (a b : Value) : Call Caller Bool :=
  Value.isTrue <$> r a b

end Loadout
