import Loadout.Value.Caller

/-! # Styles of tables

A table is laid out in a style, which is asked for by its name.  For the question of whether a table can
be laid out, a style is known by four of its traits.  A name that is not known stands for a plain
style.
-/

namespace Loadout

/-- For which columns a style looks up how they are aligned. -/
inductive AlignmentUse
  | never
  /-- For all columns, each of which must be aligned in a way that has a name. -/
  | named
  /-- For all columns. -/
  | all
  /-- For the columns that are written: if there are heads, those that have one. -/
  | written
deriving DecidableEq, Repr

structure Style where
  /-- Whether a line is drawn between two rows. -/
  ruled : Bool := false
  /-- Whether something is written in the place of a blank at the beginning of a row. -/
  marksBlanks : Bool := false
  /-- Whether numerals are not read. -/
  verbatim : Bool := false
  alignments : AlignmentUse := .never
deriving DecidableEq, Repr

namespace Style

/-- The styles with lines between rows and nothing else of note. -/
def grids : List String :=
  ["grid", "simple_grid", "rounded_grid", "heavy_grid", "mixed_grid", "double_grid", "fancy_grid",
   "colon_grid"]

/-- The other styles of note. -/
def others : List (String × Style) :=
  [("pretty", { verbatim := true }),
   ("rst", { marksBlanks := true }),
   ("asciidoc", { alignments := .named }),
   ("latex", { alignments := .all }),
   ("latex_raw", { alignments := .all }),
   ("latex_booktabs", { alignments := .all }),
   ("latex_longtable", { alignments := .all }),
   ("html", { alignments := .written }),
   ("unsafehtml", { alignments := .written }),
   ("mediawiki", { ruled := true, alignments := .written }),
   ("moinmoin", { alignments := .written }),
   ("textile", { alignments := .written })]

def ofName (name : String) : Style :=
  if grids.contains name then { ruled := true } else (others.lookup name).getD {}

def ofValue : Value → Style
  | .text name => ofName name
  | _ => {}

/-- The names of the ways to align a column. -/
def alignmentNames : List String :=
  ["left", "right", "center", "decimal"]

/-- The word that leaves a column aligned as it would be otherwise. -/
def unchangedWord : String := "global"

/-- Succeeds for an alignment that can be looked up. -/
def beAlignment (named : Bool) (v : Value) : Except Failure Unit := do
  v.beElement
  if named then
    match v with
    | .text s =>
      if !(alignmentNames.contains s || s = unchangedWord) then throw (.missingKey (Text.quote s))
    | v => throw (.missingKey (← v.shown))

/-- Succeeds for alignments of columns that can be looked up, given how many columns there are and how
many of them are written. -/
def beAligned (style : Style) (columns written : Nat) (alignments : List Value) :
    Except Failure Unit :=
  match style.alignments with
  | .never => .ok ()
  | .named => (alignments.take columns).forM (beAlignment true)
  | .all => (alignments.take columns).forM (beAlignment false)
  | .written => (alignments.take written).forM (beAlignment false)

end Style

end Loadout
