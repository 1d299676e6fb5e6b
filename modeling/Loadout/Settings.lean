import Loadout.Journal.Basic
import Loadout.Selection.ByComponent
import Loadout.Text.LetterCase
import Loadout.Value.Arithmetic
import Loadout.Value.Caller
import Loadout.Value.Order

/-! # Settings

The settings of the solvers: the size above which a component is reported, the level of the records,
and whether everything is traced.  They can be read from an environment, where every value is a
text.  Settings may hold any values; what they are worth shows only when they are used.
-/

namespace Loadout

structure Settings where
  maxComponentSize : Value := .integer 24
  logLevel : Value := .text "WARNING"
  debugLogging : Value := .truth false

/-- The limit that a value sets.  Sizes must have an order with it, and if one of them exceeds it, it
must have a wording, which a number of too many digits has not. -/
def SizeLimit.ofValue (v : Value) : SizeLimit where
  exceededBy size := do
    if ← (Value.integer size).compare .gt v then return some (← v.wording) else return none

/-- The names of levels; a level may have several. -/
def levelNames : List (String × Int) :=
  [("CRITICAL", 50), ("FATAL", 50), ("ERROR", 40), ("WARN", 30), ("WARNING", 30), ("INFO", 20),
   ("DEBUG", 10), ("NOTSET", 0)]

/-- The level that a journal is set to by a whole number or by a name.  Of anything else the wording
is asked for, and then it is shown. -/
def levelOf : Value → Except Failure Level
  | .integer n => .ok (.ofNumber n)
  | .truth b => .ok (.ofTruth b)
  | .text s =>
    match levelNames.lookup s with
    | some n => .ok (.ofNumber n)
    | none => .error (.unknownLevel (Text.quote s))
  | v => do
    let _ ← v.wording
    throw (.notALevel (← v.shown))

namespace Settings

def sizeLimit (s : Settings) : SizeLimit :=
  .ofValue s.maxComponentSize

/-- Whether two settings agree in every field. -/
def same (s t : Settings) : Except Failure Bool := do
  if !(← s.maxComponentSize.alike t.maxComponentSize) then return false
  if !(← s.logLevel.alike t.logLevel) then return false
  s.debugLogging.alike t.debugLogging

def environmentPrefix : String := "GEARSETUP_"

/-- Settings from the variables of an environment. -/
def ofEnvironment (environment : List (String × String)) : Except Failure Settings := do
  let read (name : String) := environment.lookup (environmentPrefix ++ name)
  let size ← match read "MAX_COMPONENT_SIZE" with
    | none | some "" => pure 24
    | some s =>
      if Number.digitLimit < Number.digitCount s then
        throw (.tooManyDigits (Number.digitCount s))
      match Number.integer? s with
      | some n => pure n
      | none => throw (.notIntegerNumeral (Text.quote s))
  let level := Text.upper ((read "LOG_LEVEL").getD "WARNING").toList
  let debug := String.ofList (Text.lower ((read "DEBUG").getD "0").toList)
  return {
    maxComponentSize := .integer size
    logLevel := .text (String.ofList level)
    debugLogging := .truth (["1", "true", "yes", "on"].contains debug) }

/-- The level that is set by the name in the settings.  What is not the name of a level sets the
level of warnings; a sequence is taken for the arguments of a text with one gap. -/
def level (s : Settings) : Except Failure Int := do
  s.logLevel.beElement
  match s.logLevel with
  | .text name => return (levelNames.lookup name).getD Severity.warning.number
  | .tuple [] => throw .tooFewForTemplate
  | .tuple (v :: rest) => do
    let _ ← v.wording
    if !rest.isEmpty then throw .tooManyForTemplate
    return Severity.warning.number
  | v => do
    let _ ← v.wording
    return Severity.warning.number

/-- Apply the settings to a journal. -/
def apply (s : Settings) (j : Journal) : Except Failure Journal := do
  let level ← s.level
  if s.debugLogging.isTrue then return j.toConsole.setLevel (.ofNumber (min level usualLevel))
  else return (j.setDisabled (.truth true)).setLevel (.ofNumber level)

end Settings

end Loadout
