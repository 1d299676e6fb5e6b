import Loadout.Failure

/-! # Signatures

An operation takes its arguments by place or by name.  A signature lists the parameters, those that
must be given first; binding gives every parameter its argument, if it has one.
-/

namespace Loadout

structure Signature where
  /-- The name of the operation, with the class of loggers that it belongs to. -/
  operation : String
  required : List String
  optional : List String := []
  /-- How many arguments are given without being written: the logger itself. -/
  unwritten : Nat := 1

namespace Signature

def parameters (s : Signature) : List String :=
  s.required ++ s.optional

variable {α : Type}

/-- The arguments by name, of which each must be a parameter that has no argument yet. -/
def checkNamed (s : Signature) (given : List String) : List (String × α) → Except Failure Unit
  | [] => .ok ()
  | (name, _) :: rest =>
    if !s.parameters.contains name then .error (.unexpectedOption s.operation name)
    else if given.contains name then .error (.repeatedOption s.operation name)
    else s.checkNamed (name :: given) rest

/-- The argument of every parameter. -/
def bind (s : Signature) (placed : List α) (named : List (String × α)) :
    Except Failure (String → Option α) := do
  s.checkNamed (s.parameters.take placed.length) named
  if s.parameters.length < placed.length then
    throw (.tooManyArguments s.operation (s.required.length + s.unwritten)
      (s.parameters.length + s.unwritten) (placed.length + s.unwritten))
  let byName := s.parameters.zip placed ++ named
  let missing := s.required.filter fun name => (byName.lookup name).isNone
  if !missing.isEmpty then
    throw (.missingArguments s.operation missing)
  return fun name => byName.lookup name

end Signature

end Loadout
