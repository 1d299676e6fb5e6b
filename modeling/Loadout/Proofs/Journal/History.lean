import Loadout.Journal.Desk
import Loadout.Proofs.Journal.Outline

/-!
# Histories of a transcript

A logger is disabled and put to use, and asked for operations, of which some may fail midway.  Of
each such move a few facts count: which operation it was, whether it failed, the shape of a table,
whether there is a title, whether a matrix has labels, and the strategy for a component.  One move
takes the outline of a journal to the next one by these facts (`Move.outlined`), and so does a
history (`World.outlined_after`).  Therefore the transcript is well formed after every history, and
its tags depend on the facts only.

The one operation that is left out is adding markup as it is.
-/

namespace Loadout

open Call (Triple)
open Markup

inductive Move
  | switch (disabling : Value)
  | call (o : Operation) (naming : Journal.Naming) (argument : String → Option Value)
      (isEscaped : o ≠ .markup := by decide)

/-- What counts of a move. -/
inductive Fact
  | switched (disabled : Bool)
  | called (o : Operation) (failed : Bool)
  | component (failed : Bool) (strategy : Option Strategy)
  | table (failed titled : Bool) (shape : Shape)
  | matrix (failed titled labelled : Bool)
deriving DecidableEq

variable (typeset : Typesetter)

/-- What counts of a call that is made when the caller is in the given state. -/
def Operation.fact (o : Operation) (argument : String → Option Value) (c : Caller) (failed : Bool) :
    Fact :=
  let value (name : String) : Value := (argument name).getD .nothing
  match o with
  | component => .component failed (Journal.strategyOf (value "strategy"))
  | table =>
    .table failed (Journal.isTitle (value "title"))
      (Journal.tableShape typeset (value "data") (Journal.givenHeaders (value "headers"))
        ((argument "tablefmt").getD (.text Journal.gridStyle)) (value "colalign") c)
  | matrix => .matrix failed (Journal.isTitle (value "title")) (Journal.hasLabels (value "labels"))
  | o => .called o failed

namespace Move

/-- What comes of a move. -/
def run : Move → World Caller → Except Failure Value × World Caller
  | switch disabling, w => (.ok .nothing, { w with journal := w.journal.setDisabled disabling })
  | call o naming argument _, w => o.perform typeset naming argument w

def fact (m : Move) (w : World Caller) : Fact :=
  match m with
  | switch disabling => .switched disabling.isTrue
  | call o _ argument _ => o.fact typeset argument w.caller !(m.run typeset w).1.isOk

end Move

/-- The world after a history.  A move that fails does not end it. -/
def World.after (w : World Caller) : List Move → World Caller
  | [] => w
  | m :: moves => (m.run typeset w).2.after moves

/-- What counts of a history. -/
def facts : List Move → World Caller → List Fact
  | [], _ => []
  | m :: moves, w => m.fact typeset w :: facts moves (m.run typeset w).2

/-! ## Outlines along a history -/

namespace Outline

variable (s : Outline)

/-- The outline after a call for which nothing else counts. -/
def called (failed : Bool) : Operation → Outline
  | .openSection => s.unlessDisabled fun s ↦ if failed then s.closeSection else s.openSection
  | .info => if failed then s else s.unlessDisabled (·.add (noteTags .info))
  | .error => if failed then s else s.unlessDisabled (·.add (noteTags .error))
  | .debug | .improvement => if failed then s else s.unlessDisabled (·.add (noteTags .debug))
  | .reduction => if failed then s else s.unlessDisabled (·.add (noteTags .info))
  | .result => if failed then s else s.unlessDisabled (·.add resultTags)
  | .closeSection => s.unlessDisabled closeSection
  | .clear => s.clear
  | .console => { s with disabled := false }
  | .markup | .tableMarkup | .component | .table | .matrix => s

/-- The outline after a move. -/
def next : Fact → Outline
  | .switched disabled => { s with disabled }
  | .called o failed => s.called failed o
  | .component failed strategy =>
    if failed then s
    else s.unlessDisabled (·.noted strategy)
  | .table failed titled shape => s.unlessDisabled fun s ↦
    if failed then s.headed titled else (s.headed titled).add (tableTags shape)
  | .matrix failed titled labelled =>
    if failed then s
    else s.unlessDisabled fun s ↦ if labelled then s.add (matrixTags titled) else s

end Outline

theorem Operation.perform_outlined {o : Operation} (ho : o ≠ .markup) (naming : Journal.Naming)
    (argument : String → Option Value) (s : Outline) (c : Caller) :
    Triple (fun w ↦ Run.Outlined s w ∧ w.caller = c) (o.perform typeset naming argument)
      (fun _ ↦ Run.Outlined (s.next (o.fact typeset argument c false)))
      (fun _ ↦ Run.Outlined (s.next (o.fact typeset argument c true))) := by
  have hleads {act : Run Caller Unit} {t u : Outline} (h : Run.Leads s act t u) :
      Triple (fun w ↦ Run.Outlined s w ∧ w.caller = c) (act >>= fun _ ↦ pure Value.nothing)
        (fun _ ↦ Run.Outlined t) (fun _ ↦ Run.Outlined u) :=
    fun w hw ↦ (h.bind fun _ ↦ .pure Value.nothing) w hw.1
  cases o with
  | openSection => exact hleads (Journal.openSectionValue_leads _)
  | info => exact hleads (Journal.noteValue_leads _ _)
  | error => exact hleads (Journal.noteValue_leads _ _)
  | debug => exact hleads (Journal.noteValue_leads _ _)
  | result => exact hleads (Journal.resultValue_leads _ _)
  | markup => exact absurd rfl ho
  | closeSection => exact hleads (.write fun j h ↦ h.closeSection)
  | clear => exact hleads (.write fun j h ↦ h.clear)
  | component => exact hleads (Journal.componentValue_leads _ _ _)
  | improvement => exact hleads (Journal.improvementValue_leads _ _)
  | reduction => exact hleads (Journal.reductionValue_leads _ _ _)
  | tableMarkup => exact fun w hw ↦ Journal.tableMarkupValue_leads _ _ w hw.1
  | table =>
    exact (Journal.tableValue_outlined _ c).bind fun _ ↦ .pure fun _ h ↦ h
  | matrix => exact hleads (Journal.matrixValue_leads _ _ _ _)
  | console => exact hleads (Journal.toConsoleValue_leads _)

/-- A move takes the outline to the next one, whatever the texts are. -/
theorem Move.outlined (m : Move) {s : Outline} {w : World Caller} (h : w.journal.Has s) :
    (m.run typeset w).2.journal.Has (s.next (m.fact typeset w)) := by
  cases m with
  | switch disabling => exact h.setDisabled disabling
  | call o naming argument ho =>
    have hperform := Operation.perform_outlined typeset ho naming argument s w.caller w ⟨h, rfl⟩
    rw [fact, run]
    cases hrun : o.perform typeset naming argument w with
    | mk result w' =>
      rw [hrun] at hperform
      cases result with
      | ok a => exact hperform
      | error e => exact hperform

/-- So does a history. -/
theorem World.outlined_after {s : Outline} {w : World Caller} (h : w.journal.Has s)
    (moves : List Move) :
    (w.after typeset moves).journal.Has ((facts typeset moves w).foldl Outline.next s) := by
  induction moves generalizing s w with
  | nil => exact h
  | cons m moves ih => exact ih (m.outlined typeset h)

/-! ## Reading -/

/-- The outline of a journal to which nothing was written yet. -/
theorem Journal.has_of_empty {j : Journal} (h : j.transcript = {}) :
    j.Has { disabled := j.disabled } :=
  ⟨rfl, by rw [h], by rw [h]; exact .nil⟩

/-- The tags of the page that a journal is read as are known from its outline. -/
theorem Journal.Has.reads {j : Journal} {s : Outline} (h : j.Has s) :
    ∃ content page, j.transcript.Reads content page
      ∧ tags page = Element.content.around (s.tags ++ closingTags s.sectionOpen) := by
  have hwritten := h.written
  rw [← h.sectionOpen] at hwritten ⊢
  exact hwritten.reads

/-- A page can be written at any time, and that changes nothing. -/
theorem Journal.pageValue_world (name : String) (title : Value) (w : World Caller) :
    (Journal.pageValue name title w).2 = w := by
  have hpage (title : String) : ((do
      Run.ofExcept (Page.html title (← Run.journal).transcript) : Run Caller String) w).2 = w := rfl
  rw [Journal.pageValue]
  split
  · cases Journal.escapable title with
    | ok text => exact hpage text
    | error e => rfl
  · exact hpage name

/-- After every history the transcript is well formed, its tags depend on the facts of the history
only, and reading it changes nothing. -/
theorem Transcript.reads_after (w : World Caller) (hw : w.journal.transcript = {})
    (moves : List Move) :
    ∃ content page, (w.after typeset moves).journal.transcript.Reads content page
      ∧ (∀ (w' : World Caller) (moves' : List Move), w'.journal.transcript = {} →
          w'.journal.disabled = w.journal.disabled → facts typeset moves' w' = facts typeset moves w →
          ∃ content' page', (w'.after typeset moves').journal.transcript.Reads content' page'
            ∧ tags page' = tags page)
      ∧ ∀ name title,
          (Journal.pageValue name title (w.after typeset moves)).2 = w.after typeset moves := by
  have hafter := World.outlined_after typeset (Journal.has_of_empty hw) moves
  obtain ⟨content, page, hreads, htags⟩ := hafter.reads
  refine ⟨content, page, hreads, ?_, fun name title ↦ Journal.pageValue_world name title _⟩
  intro w' moves' hw' hdisabled hfacts
  have hafter' := World.outlined_after typeset (Journal.has_of_empty hw') moves'
  rw [hdisabled, hfacts] at hafter'
  obtain ⟨content', page', hreads', htags'⟩ := hafter'.reads
  exact ⟨content', page', hreads', htags'.trans htags.symm⟩

/-! ## Histories of a new logger -/

/-- A logger that is in use and to which nothing was written yet. -/
def World.fresh : World Caller where
  journal := { disabling := .truth false }
  caller := {}

/-- The arguments of a call by the names of its parameters. -/
def given (named : List (String × Value)) (name : String) : Option Value :=
  named.lookup name

/-- A note in a section, which is left open while the logger is disabled, and a table and a matrix
after it. -/
def sampleHistory (title message cell label : String) : List Move :=
  [.call .openSection .shown (given [("title", .text title)]),
    .call .info .shown (given [("message", .text message)]),
    .switch (.truth true),
    .call .closeSection .shown (given []),
    .switch (.truth false),
    .call .table .shown
      (given [("data", .list [.list [.text cell]]), ("title", .text title)]),
    .call .matrix .shown
      (given [("matrix", .list [.list [.truth true]]), ("labels", .list [.text label])])]

theorem Transcript.reads_after_sample : World.fresh.journal.transcript = {}
    ∧ facts Layout.layOut (sampleHistory "<h1>" "</p>" "a<b" "<") .fresh
      = facts Layout.layOut (sampleHistory "A" "B" "C" "D") .fresh
    ∧ ∃ content page content' page',
      (World.fresh.after Layout.layOut (sampleHistory "A" "B" "C" "D")).journal.transcript.Reads
        content page
      ∧ (World.fresh.after Layout.layOut
        (sampleHistory "<h1>" "</p>" "a<b" "<")).journal.transcript.Reads content' page'
      ∧ tags page' = tags page := by
  have hfacts : facts Layout.layOut (sampleHistory "<h1>" "</p>" "a<b" "<") .fresh
      = facts Layout.layOut (sampleHistory "A" "B" "C" "D") .fresh := by decide
  obtain ⟨content, page, hreads, hsame, -⟩ :=
    Transcript.reads_after Layout.layOut .fresh rfl (sampleHistory "A" "B" "C" "D")
  obtain ⟨content', page', hreads', htags⟩ := hsame .fresh _ rfl rfl hfacts
  exact ⟨rfl, hfacts, content, page, content', page', hreads, hreads', htags⟩

/-- What is left of a fact if it counts neither whether a matrix has labels nor when the logger was
disabled. -/
def Fact.listed : Fact → Option Fact
  | .switched _ => none
  | .matrix failed titled _ => some (.matrix failed titled true)
  | f => some f

/-- The tags of the page that a new logger has after a history. -/
def pageTags (moves : List Move) : Option (List Tag) :=
  (World.fresh.after Layout.layOut moves).journal.transcript.html.toOption.map tags

def drawing (matrix labels : List Value) : Move :=
  .call .matrix .shown (given [("matrix", .list matrix), ("labels", .list labels)])

/-- Whether a matrix has labels counts, and so does when the logger was disabled. -/
theorem pageTags_of_unlisted :
    ((facts Layout.layOut [drawing [] []] .fresh).filterMap Fact.listed
        = (facts Layout.layOut [drawing [.list [.truth false]] [.text "a"]] .fresh).filterMap
          Fact.listed
      ∧ pageTags [drawing [] []] ≠ pageTags [drawing [.list [.truth false]] [.text "a"]])
    ∧ (facts Layout.layOut
          [.switch (.truth true), drawing [.list [.truth false]] [.text "a"]] .fresh).filterMap
        Fact.listed
      = (facts Layout.layOut [drawing [.list [.truth false]] [.text "a"]] .fresh).filterMap
        Fact.listed
    ∧ pageTags [.switch (.truth true), drawing [.list [.truth false]] [.text "a"]]
      ≠ pageTags [drawing [.list [.truth false]] [.text "a"]] := by
  refine ⟨⟨by decide, ?_⟩, by decide, ?_⟩
  · decide +kernel
  · decide +kernel

end Loadout
