import Loadout.Journal.MatrixBlock
import Loadout.Journal.Transcript
import Loadout.Value.Basic

/-! # Journals

A journal keeps track of what an algorithm does, twice over: as records, of which only those at or
above its level are kept, and as a transcript, which keeps everything.  A disabled journal takes in
nothing, apart from warnings that are sent to the records directly.
-/

namespace Loadout

/-- The level below which nothing is recorded where no level is set. -/
def rootLevel : Int := 30

/-- The level that is set first, at which all but debugging notes are recorded. -/
def usualLevel : Int := 20

/-- How the records are printed at first … -/
def plainFormat : String := "%(message)s"

/-- … and on a console. -/
def consoleFormat : String := "%(asctime)s - %(name)s - %(levelname)s - %(message)s"

/-- Where records go: the level, zero standing for the level that is inherited, and the formats of
the printers. -/
structure Channel where
  level : Level := .ofNumber usualLevel
  inherited : Int := rootLevel
  formats : List String := [plainFormat]
deriving DecidableEq, Repr

/-- The name of the journal that the solvers share. -/
def sharedName : String := "GearSetup"

structure Journal where
  /-- What the journal was set to when it was disabled or put to use. -/
  disabling : Value := .truth true
  channel : Channel := {}
  records : List Record := []
  transcript : Transcript := {}

/-- How the best choice within a component is found. -/
inductive Strategy
  | isolated
  | pair
  | exhaustive
deriving DecidableEq, Repr

namespace Strategy

def name : Strategy → String
  | isolated => "ISOLATED"
  | pair => "PAIR"
  | exhaustive => "RECURSIVE"

def ofName? (s : String) : Option Strategy :=
  [isolated, pair, exhaustive].find? fun strategy => strategy.name == s

/-- What is noted of a component and its size. -/
def sentence (strategy : Strategy) (component size : String) : String :=
  match strategy with
  | isolated => "Component " ++ component ++ ": isolated vertex, always selected"
  | pair => "Component " ++ component ++ ": two vertices, keeping the heavier one"
  | exhaustive => "Component " ++ component ++ ": " ++ size ++ " vertices, running exhaustive search"

end Strategy

namespace Journal

open Number (integerText)

/-- A journal is disabled by any value that counts as true. -/
def disabled (j : Journal) : Bool :=
  j.disabling.isTrue

/-- Disable a journal or put it to use. -/
def setDisabled (value : Value) (j : Journal) : Journal :=
  { j with disabling := value }

def admits (severity : Severity) (j : Journal) : Bool :=
  (if j.channel.level.isUnset then j.channel.inherited else j.channel.level.number)
    ≤ severity.number

/-- Keep a record, if the level admits it. -/
def emit (severity : Severity) (message : String) (j : Journal) : Journal :=
  if j.admits severity then { j with records := j.records ++ [⟨severity, message⟩] } else j

def append (f : Fragment) (j : Journal) : Journal :=
  { j with transcript := j.transcript.append f }

/-- Do something to a journal unless it is disabled. -/
def unlessDisabled (f : Journal → Journal) (j : Journal) : Journal :=
  if j.disabled then j else f j

/-- The rule on both sides of the title of a section. -/
def sectionRule : String :=
  String.ofList (List.replicate 20 '=')

/-- The record of a new section. -/
def sectionBanner (title : String) : String :=
  "\n" ++ sectionRule ++ " " ++ title ++ " " ++ sectionRule ++ "\n"

def openSection (title : String) : Journal → Journal :=
  unlessDisabled fun j =>
    let j := j.emit .info (sectionBanner title)
    { j with transcript := j.transcript.openSection title }

def closeSection : Journal → Journal :=
  unlessDisabled fun j => { j with transcript := j.transcript.closeSection }

/-- Note a message at some severity. -/
def note (severity : Severity) (message : String) : Journal → Journal :=
  unlessDisabled fun j => (j.emit severity message).append (.note severity message)

def result (name value : String) : Journal → Journal :=
  unlessDisabled fun j => (j.emit .info (name ++ ": " ++ value)).append (.result name value)

def setLevel (level : Level) (j : Journal) : Journal :=
  { j with channel := { j.channel with level := level } }

/-- Put a journal to use, with a printer for the console if it has none. -/
def toConsole (j : Journal) : Journal :=
  let formats := if j.channel.formats.isEmpty then [consoleFormat] else j.channel.formats
  { j with disabling := .truth false, channel := { j.channel with formats := formats } }

def clear (j : Journal) : Journal :=
  { j with transcript := {} }

/-- The record of a title above a table or a matrix. -/
def titleLine (title : String) : String :=
  "\n" ++ title ++ ":"

/-- The record that stands for a table in the given style. -/
def tableRecord (style : String) : String :=
  "<table " ++ style ++ ">"

/-- The style of a table if none is chosen. -/
def gridStyle : String := "grid"

/-- The title above a table. -/
def heading (title : String) : Journal → Journal :=
  unlessDisabled fun j => (j.emit .info (titleLine title)).append (.heading title)

def table (headers : List String) (rows : List (List String)) : Journal → Journal :=
  unlessDisabled fun j =>
    (j.emit .info (tableRecord gridStyle)).append (.table (some headers) rows)

def matrix (title : String) (names : List String) (cells : List (List Bool)) : Journal → Journal :=
  unlessDisabled fun j =>
    let j := if title.isEmpty then j else j.emit .info (titleLine title)
    let block := MatrixBlock.block names cells
    (j.emit .info block).append (.matrix title block)

def component (number size : Nat) (strategy : Strategy) : Journal → Journal :=
  note .info (strategy.sentence (integerText number) (integerText size))

/-- What is noted when a better selection is found. -/
def improvementSentence (weight size : String) : String :=
  "New best selection: " ++ size ++ " vertices, weight " ++ weight

def improvement (weight : String) (size : Nat) : Journal → Journal :=
  note .debug (improvementSentence weight (integerText size))

/-- What is noted when a reduction has dropped some candidates. -/
def reductionSentence (stage before after removed : String) : String :=
  stage ++ ": " ++ before ++ " -> " ++ after ++ " candidates (" ++ removed ++ " removed)"

/-- What is noted when a reduction has dropped no candidate. -/
def noReductionSentence (stage after : String) : String :=
  stage ++ ": " ++ after ++ " candidates, nothing removed"

/-- Note how many candidates survived a stage. -/
def reduction (stage : String) (before after : Nat) : Journal → Journal :=
  note .info
    (if before = after then noReductionSentence stage (integerText after)
    else reductionSentence stage (integerText before) (integerText after)
      (integerText ((before : Int) - after)))

end Journal

end Loadout
