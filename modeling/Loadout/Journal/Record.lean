/-! # Records

A record is one message at one severity.  A severity has a number, so that a level can be set below
which nothing is recorded.  A level is a number too, but may have been set as a truth value, and then
it is told as one.
-/

namespace Loadout

inductive Severity
  | debug
  | info
  | warning
  | error
  | critical
deriving DecidableEq, Repr

namespace Severity

def number : Severity → Int
  | debug => 10
  | info => 20
  | warning => 30
  | error => 40
  | critical => 50

def name : Severity → String
  | debug => "DEBUG"
  | info => "INFO"
  | warning => "WARNING"
  | error => "ERROR"
  | critical => "CRITICAL"

end Severity

inductive Level
  | ofNumber (n : Int)
  | ofTruth (b : Bool)
deriving DecidableEq, Repr

namespace Level

def number : Level → Int
  | ofNumber n => n
  | ofTruth b => b.toInt

/-- Whether a level is zero, which stands for no level at all. -/
def isUnset (level : Level) : Bool :=
  level.number == 0

end Level

structure Record where
  severity : Severity
  message : String
deriving DecidableEq, Repr

end Loadout
