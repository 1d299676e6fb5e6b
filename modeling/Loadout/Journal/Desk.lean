import Loadout.Journal.Dynamic
import Loadout.Journal.Layout

/-! # A desk of loggers

Several loggers can be in use at once.  Each has a transcript of its own; where its records go is
decided by its name, so that loggers of one name share their level and their printers.  A level of
zero is inherited from a name further up, names being nested at their points.

Loggers come in classes, some of which can draw tables, or matrices, or both.
-/

namespace Loadout

inductive LoggerClass
  | plain
  | tables
  | matrices
  | full
deriving DecidableEq, Repr

namespace LoggerClass

def name : LoggerClass → String
  | plain => "AlgorithmLogger"
  | tables => "TableLogger"
  | matrices => "MatrixLogger"
  | full => "Logger"

def ofName? (s : String) : Option LoggerClass :=
  [plain, tables, matrices, full].find? fun c => c.name == s

/-- Whether loggers of the first class can do what those of the second can. -/
def extends? (c d : LoggerClass) : Bool :=
  c == d || c == full || d == plain

end LoggerClass

/-- What a logger can be asked to do by its name. -/
inductive Operation
  | openSection
  | info
  | error
  | debug
  | result
  | markup
  | closeSection
  | clear
  | component
  | improvement
  | reduction
  | tableMarkup
  | table
  | matrix
  | console
deriving DecidableEq, Repr

namespace Operation

def name : Operation → String
  | openSection => "section"
  | info => "info"
  | error => "error"
  | debug => "debug"
  | result => "result"
  | markup => "raw_html"
  | closeSection => "end_section"
  | clear => "clear"
  | component => "log_component"
  | improvement => "log_best_selection"
  | reduction => "log_reduction"
  | tableMarkup => "create_html_table"
  | table => "table"
  | matrix => "adjacency"
  | console => "setup_console_logging"

def all : List Operation :=
  [openSection, info, error, debug, result, markup, closeSection, clear, component, improvement,
   reduction, tableMarkup, table, matrix, console]

def ofName? (s : String) : Option Operation :=
  all.find? fun o => o.name == s

/-- The class of loggers that an operation belongs to. -/
def owner : Operation → LoggerClass
  | component | improvement | reduction | matrix => .matrices
  | tableMarkup | table => .tables
  | console => .full
  | _ => .plain

def parameters : Operation → List String × List String
  | openSection => (["title"], [])
  | info | error | debug => (["message"], [])
  | result => (["label", "value"], [])
  | markup => (["html_content"], [])
  | closeSection | clear => ([], [])
  | component => (["index", "size", "strategy"], [])
  | improvement => (["weight", "size"], [])
  | reduction => (["stage", "before", "after"], [])
  | tableMarkup => (["data", "headers"], [])
  | table => (["data"], ["headers", "title", "tablefmt", "colalign"])
  | matrix => (["matrix", "labels"], ["format_func", "title"])
  | console => ([], ["level"])

def signature (o : Operation) : Signature where
  operation := o.owner.name ++ "." ++ o.name
  required := o.parameters.1
  optional := o.parameters.2

/-- Perform an operation on the arguments of its parameters. -/
def perform (typeset : Typesetter) (o : Operation) (naming : Journal.Naming)
    (argument : String → Option Value) : Run Caller Value := do
  let value (name : String) : Value := (argument name).getD .nothing
  match o with
  | openSection => Journal.openSectionValue (value "title")
  | info => Journal.noteValue .info (value "message")
  | error => Journal.noteValue .error (value "message")
  | debug => Journal.noteValue .debug (value "message")
  | result => Journal.resultValue (value "label") (value "value")
  | markup => Journal.markupValue (value "html_content")
  | closeSection => Run.write .closeSection
  | clear => Run.write .clear
  | component => Journal.componentValue (value "index") (value "size") (value "strategy")
  | improvement => Journal.improvementValue (value "weight") (value "size")
  | reduction => Journal.reductionValue (value "stage") (value "before") (value "after")
  | tableMarkup => return ← Journal.tableMarkupValue (value "data") (value "headers")
  | table =>
    Journal.tableValue typeset (value "data") (value "headers") (value "title")
      ((argument "tablefmt").getD (.text Journal.gridStyle)) (value "colalign")
  | matrix => Journal.matrixValue (value "matrix") (value "labels") naming (value "title")
  | console => Journal.toConsoleValue ((argument "level").getD (.integer usualLevel))
  return .nothing

end Operation

structure Logger where
  loggerClass : LoggerClass
  name : String
  disabling : Value := .truth false
  transcript : Transcript := {}

/-- The loggers by their identifiers.  Where records go is kept by the names of the loggers, and so is
the name that the level is inherited from. -/
structure Desk where
  loggers : List (String × Logger) := []
  channels : List (String × Channel) := []
  parents : List (String × String) := []
  records : List Record := []

namespace Desk

/-- Replace the value of a key, or add it. -/
def put {α : Type} (key : String) (a : α) (entries : List (String × α)) : List (String × α) :=
  if entries.any (·.1 == key) then entries.map fun e => if e.1 == key then (key, a) else e
  else entries ++ [(key, a)]

/-- The name above all others, which the empty name stands for too. -/
def rootName : String := "root"

def channelName (name : String) : String :=
  if name.isEmpty then rootName else name

/-- The beginnings of a name that end before a point, the longest first, of those points that stand
before a position.  A point at the very beginning does not count, and after a point that counts the
character before it is passed over. -/
def beginnings (name : List Char) : Nat → List (List Char)
  | 0 => []
  | 1 => []
  | n + 2 =>
    if name[n + 1]? = some '.' then name.take (n + 1) :: beginnings name n
    else beginnings name (n + 1)

/-- The names that a name is nested in, nearest first. -/
def outerNames (name : String) : List String :=
  (beginnings name.toList name.length).map String.ofList

/-- The level that counts for a name: its own, or that of the first name above it that has one.  The
names above are followed for a number of steps. -/
def countingLevel (d : Desk) : Nat → String → Int
  | 0, _ => 0
  | steps + 1, name =>
    let level := ((d.channels.lookup name).map (·.level.number)).getD
      (if name = rootName then rootLevel else 0)
    if level ≠ 0 then level
    else
      match d.parents.lookup name with
      | some parent => d.countingLevel steps parent
      | none => 0

/-- The level that a name inherits. -/
def inheritedLevel (d : Desk) (name : String) : Int :=
  match d.parents.lookup name with
  | some parent => d.countingLevel (d.parents.length + 1) parent
  | none => 0

/-- Where the records of a name go. -/
def channel (d : Desk) (name : String) : Channel :=
  let name := channelName name
  { (d.channels.lookup name).getD {} with inherited := d.inheritedLevel name }

/-- Find the place of a new name.  It inherits from the nearest name that it is nested in.  A name that
is nested in the new one inherits from it from now on, unless the name that it has inherited from
begins with the new one. -/
def place (d : Desk) (name : String) : Desk :=
  let parent := ((outerNames name).find? fun outer => (d.parents.lookup outer).isSome).getD rootName
  let moved := d.parents.map fun (inner, above) =>
    if (outerNames inner).contains name && !above.startsWith name then (inner, name)
    else (inner, above)
  { d with parents := moved ++ [(name, parent)] }

/-- Set up a logger.  Where its records go is set up with the first logger of a name; a later one
only sees to it that there is a level. -/
def setUp (d : Desk) (id : String) (loggerClass : LoggerClass) (name : String) : Desk :=
  let key := channelName name
  let d := if key = rootName || (d.parents.lookup key).isSome then d else d.place key
  let channel : Channel := match d.channels.lookup key with
    | none => {}
    | some c => if c.level.isUnset then { c with level := .ofNumber usualLevel } else c
  { d with
    loggers := put id { loggerClass, name } d.loggers
    channels := put key channel d.channels }

/-- A desk with one name that is set up already. -/
def withChannel (name : String) (channel : Channel) : Desk :=
  place { channels := [(name, channel)] } name

/-- The journal of a logger. -/
def journalOf (d : Desk) (logger : Logger) : Journal where
  disabling := logger.disabling
  channel := d.channel logger.name
  records := d.records
  transcript := logger.transcript

/-- Let a logger do something. -/
def withLogger {α : Type} (d : Desk) (id : String) (logger : Logger) (act : Run Caller α)
    (caller : Caller) : Except Failure α × Desk × Caller :=
  let (result, world) := act { journal := d.journalOf logger, caller }
  let j := world.journal
  let d := { d with
    loggers := put id { logger with disabling := j.disabling, transcript := j.transcript } d.loggers
    channels := put (channelName logger.name) j.channel d.channels
    records := j.records }
  (result, d, world.caller)

/-- What a logger does when it is asked for an operation, provided that its class has it. -/
def request (logger : Logger) (o : Operation) (naming : Journal.Naming) (placed : List Value)
    (named : List (String × Value)) (typeset : Typesetter := Layout.layOut) : Run Caller Value := do
  if !logger.loggerClass.extends? o.owner then
    throw (.noMember logger.loggerClass.name o.name)
  let argument ← Run.ofExcept (o.signature.bind placed named)
  o.perform typeset naming argument

end Desk

end Loadout
