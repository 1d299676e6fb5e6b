import Loadout.Journal.Dynamic
import Loadout.Proofs.Journal.Sections
import Loadout.Proofs.Tracing

/-!
# Outlines of journals

The outline of a journal is what is left of it without its texts: whether it is disabled, whether a
section is open, and the tags of what was written.  Each thing that is done to a journal is followed
by its outline.  What happens to the outline depends on whether it is done or fails midway, and on
little else; in particular not on the texts.
-/

namespace Loadout

open Markup

structure Outline where
  disabled : Bool
  sectionOpen : Bool := false
  tags : List Tag := []
deriving DecidableEq

namespace Outline

variable (s : Outline)

def add (us : List Tag) : Outline :=
  { s with tags := s.tags ++ us }

def closeSection : Outline :=
  if s.sectionOpen then { s.add [Element.division.closingTag] with sectionOpen := false } else s

def openSection : Outline :=
  { s.closeSection.add sectionTags with sectionOpen := true }

def clear : Outline :=
  { disabled := s.disabled }

/-- What comes of something that is done unless the journal is disabled. -/
def unlessDisabled (f : Outline → Outline) : Outline :=
  if s.disabled then s else f s

/-- The outline with a note on a component, if its strategy is known. -/
def noted (strategy : Option Strategy) : Outline :=
  match strategy with
  | none => s
  | some _ => s.add (noteTags .info)

/-- The outline with a heading, if there is one. -/
def headed (titled : Bool) : Outline :=
  if titled then s.add headingTags else s

theorem sectionOpen_closeSection : s.closeSection.sectionOpen = false := by
  unfold closeSection
  split
  · rfl
  · next h => exact Bool.eq_false_of_not_eq_true h

/-- A section that is closed already needs no closing. -/
theorem openSection_closeSection : s.closeSection.openSection = s.openSection := by
  have htwice : s.closeSection.closeSection = s.closeSection := by
    rw [closeSection, sectionOpen_closeSection, if_neg Bool.false_ne_true]
  rw [openSection, openSection, htwice]

end Outline

/-! ## What is done to a journal -/

/-- A journal has an outline. -/
structure Journal.Has (s : Outline) (j : Journal) : Prop where
  disabled : j.disabled = s.disabled
  sectionOpen : j.transcript.sectionOpen = s.sectionOpen
  written : Written s.sectionOpen j.transcript.fragments s.tags

namespace Journal.Has

variable {s t : Outline} {j : Journal}

theorem emit (h : Has s j) (severity : Severity) (message : String) :
    Has s (j.emit severity message) := by
  unfold Journal.emit
  split
  · exact ⟨h.disabled, h.sectionOpen, h.written⟩
  · exact h

theorem append {f : Fragment} {us : List Tag} (h : Has s j) (hf : f.blockTags? = some us) :
    Has (s.add us) (j.append f) where
  disabled := h.disabled
  sectionOpen := h.sectionOpen
  written := h.written.block hf

/-- A transcript in which an open section is closed. -/
theorem closeSection_transcript (h : Has s j) :
    Has s.closeSection { j with transcript := j.transcript.closeSection } := by
  obtain ⟨disabled, isOpen, ts⟩ := s
  have hopen : j.transcript.sectionOpen = isOpen := h.sectionOpen
  rw [Outline.closeSection, Transcript.closeSection]
  cases isOpen with
  | false =>
    rw [hopen]
    exact h
  | true =>
    rw [hopen]
    exact ⟨h.disabled, rfl, h.written.sectionEnd⟩

theorem openSection_transcript (h : Has s j) (title : String) :
    Has s.openSection { j with transcript := j.transcript.openSection title } := by
  have hclosed := h.closeSection_transcript
  have hwritten := hclosed.written
  rw [s.sectionOpen_closeSection] at hwritten
  exact ⟨hclosed.disabled, rfl, hwritten.sectionStart title⟩

theorem unlessDisabled {f : Journal → Journal} {g : Outline → Outline} (h : Has s j)
    (hf : Has (g s) (f j)) : Has (s.unlessDisabled g) (Journal.unlessDisabled f j) := by
  rw [Journal.unlessDisabled, Outline.unlessDisabled, h.disabled]
  split
  · exact h
  · exact hf

theorem closeSection (h : Has s j) : Has (s.unlessDisabled Outline.closeSection) j.closeSection :=
  h.unlessDisabled h.closeSection_transcript

theorem note (h : Has s j) (severity : Severity) (message : String) :
    Has (s.unlessDisabled (·.add (noteTags severity))) (j.note severity message) :=
  h.unlessDisabled ((h.emit severity message).append (Fragment.blockTags?_note severity message))

theorem clear (h : Has s j) : Has s.clear j.clear :=
  ⟨h.disabled, rfl, .nil⟩

theorem setDisabled (h : Has s j) (value : Value) :
    Has { s with disabled := value.isTrue } (j.setDisabled value) :=
  ⟨rfl, h.sectionOpen, h.written⟩

theorem toConsole (h : Has s j) : Has { s with disabled := false } j.toConsole :=
  ⟨rfl, h.sectionOpen, h.written⟩

theorem setLevel (h : Has s j) (level : Level) : Has s (j.setLevel level) :=
  ⟨h.disabled, h.sectionOpen, h.written⟩

end Journal.Has

/-! ## Runs -/

namespace Run

open Call (Triple)

variable {τ α : Type} {s t u : Outline} {fails : Failure → World τ → Prop}

/-- A world whose journal has an outline. -/
def Outlined (s : Outline) (w : World τ) : Prop :=
  w.journal.Has s

theorem ask_apply (call : Call τ α) (w : World τ) :
    ask call w = ((call w.caller).1, ⟨w.journal, (call w.caller).2⟩) := rfl

/-- Started with the outline `s`, a run ends with the outline `t` if it answers, and with `u` if it
fails. -/
def Leads (s : Outline) (act : Run τ α) (t u : Outline) : Prop :=
  Triple (Outlined s) act (fun _ ↦ Outlined t) (fun _ ↦ Outlined u)

namespace Leads

variable {act : Run τ α} {β : Type} {k : α → Run τ β} {v : Outline}

theorem pure (a : α) : Leads s (Pure.pure a : Run τ α) s u :=
  Triple.pure fun _ h ↦ h

theorem bind (h : Leads s act t u) (hk : ∀ a, Leads t (k a) v u) : Leads s (act >>= k) v u :=
  Triple.bind h hk

theorem write {f : Journal → Journal} (h : ∀ j : Journal, j.Has s → (f j).Has t) :
    Leads s (Run.write f : Run τ Unit) t u :=
  fun w hw ↦ h w.journal hw

theorem ask (call : Call τ α) : Leads s (Run.ask call) s s := by
  intro w hw
  rw [ask_apply]
  cases call w.caller with
  | mk result c => cases result <;> exact hw

theorem journal : Leads s (Run.journal : Run τ Journal) s s :=
  fun _ h ↦ h

/-- A note that is written to a journal in use. -/
theorem note (hs : s.disabled = false) (severity : Severity) (message : String) :
    Leads s (Run.write (.note severity message) : Run τ Unit) (s.add (noteTags severity)) u := by
  refine write fun j h ↦ ?_
  have h := h.note severity message
  rwa [Outline.unlessDisabled, hs, if_neg Bool.false_ne_true] at h

theorem ite {p : Prop} [Decidable p] {act' : Run τ α} (h : p → Leads s act t u)
    (h' : ¬p → Leads s act' t u) : Leads s (if p then act else act') t u := by
  split
  · next hp => exact h hp
  · next hp => exact h' hp

/-- What follows an outcome that is known already. -/
theorem ofExcept_bind {result : Except Failure α}
    (hk : ∀ a, result = .ok a → Leads s (k a) t s) : Leads s (Run.ofExcept result >>= k) t s := by
  cases result with
  | ok a => exact hk a rfl
  | error e => exact fun _ h ↦ h

/-- A disabled journal is left as it is, and nothing fails. -/
theorem journalled {act : Run τ Unit} {f : Outline → Outline}
    (h : s.disabled = false → Leads s act (f s) u) :
    Leads s (Run.journalled act) (s.unlessDisabled f) u := by
  intro w hw
  have hdisabled : w.journal.disabled = s.disabled := hw.disabled
  rw [Outline.unlessDisabled, journalled_apply, hdisabled]
  cases hs : s.disabled with
  | false => exact h hs w hw
  | true => exact hw

end Leads

end Run

/-! ## Values that are journalled -/

namespace Journal

open Call (Triple)
open Run (Leads)

variable {s : Outline}

theorem emitValue_leads (severity : Severity) (message : Value) :
    Leads s (emitValue severity message) s s := by
  refine Leads.journal.bind fun j ↦ .ite (fun _ ↦ ?_) fun _ ↦ .pure ()
  exact Leads.ofExcept_bind fun wording _ ↦ .write fun j h ↦ h.emit severity wording

theorem noteValue_leads (severity : Severity) (message : Value) :
    Leads s (noteValue severity message) (s.unlessDisabled (·.add (noteTags severity))) s := by
  refine .journalled fun _ ↦ (emitValue_leads severity message).bind fun _ ↦ ?_
  exact Leads.ofExcept_bind fun text _ ↦ .write fun j h ↦
    h.append (Fragment.blockTags?_note severity text)

/-- A section that was open is closed also if the new one has no title that can be written. -/
theorem openSectionValue_leads (title : Value) :
    Leads s (openSectionValue title) (s.unlessDisabled Outline.openSection)
      (s.unlessDisabled Outline.closeSection) := by
  refine .journalled fun hs ↦ ?_
  rw [← s.openSection_closeSection]
  refine .bind (.write fun j h ↦ h.closeSection) fun _ ↦ ?_
  rw [Outline.unlessDisabled, hs, if_neg Bool.false_ne_true]
  refine Leads.ofExcept_bind fun wording _ ↦ ?_
  refine .bind (.write fun j h ↦ h.emit .info (sectionBanner wording)) fun _ ↦ ?_
  exact Leads.ofExcept_bind fun text _ ↦ .write fun j h ↦ h.openSection_transcript text

theorem resultValue_leads (name value : Value) :
    Leads s (resultValue name value) (s.unlessDisabled (·.add resultTags)) s := by
  refine .journalled fun _ ↦ ?_
  refine Leads.ofExcept_bind fun nameWording _ ↦ Leads.ofExcept_bind fun valueWording _ ↦ ?_
  refine .bind (.write fun j h ↦ h.emit .info (nameWording ++ ": " ++ valueWording)) fun _ ↦ ?_
  exact Leads.ofExcept_bind fun text _ ↦ .write fun j h ↦
    h.append (Fragment.blockTags?_result text valueWording)

/-- The strategy that a value names, if it names one. -/
def strategyOf : Value → Option Strategy
  | .text name => Strategy.ofName? name
  | _ => none

/-- Nothing is noted of a component if its strategy is not known. -/
theorem componentValue_leads (number size strategy : Value) :
    Leads s (componentValue number size strategy)
      (s.unlessDisabled (·.noted (strategyOf strategy))) s := by
  refine .journalled fun hs ↦ ?_
  cases strategy with
  | text name =>
    dsimp only [strategyOf]
    cases Strategy.ofName? name with
    | none => exact .pure ()
    | some strategy =>
      refine Leads.ofExcept_bind fun number _ ↦ ?_
      exact .ite (fun _ ↦ Leads.ofExcept_bind fun size _ ↦ .note hs _ _)
        fun _ ↦ .bind (.pure "") fun size ↦ .note hs _ _
  | _ => exact .pure ()

theorem improvementValue_leads (weight size : Value) :
    Leads s (improvementValue weight size) (s.unlessDisabled (·.add (noteTags .debug))) s := by
  refine .journalled fun hs ↦ ?_
  exact Leads.ofExcept_bind fun size _ ↦ Leads.ofExcept_bind fun weight _ ↦ .note hs _ _

theorem reductionValue_leads (stage before after : Value) :
    Leads s (reductionValue stage before after) (s.unlessDisabled (·.add (noteTags .info))) s := by
  refine .journalled fun hs ↦ ?_
  refine Leads.ofExcept_bind fun removed _ ↦ Leads.ofExcept_bind fun stage _ ↦
    Leads.ofExcept_bind fun isRemoved _ ↦ ?_
  refine .ite (fun _ ↦ ?_) fun _ ↦ Leads.ofExcept_bind fun after _ ↦ .note hs _ _
  exact Leads.ofExcept_bind fun before _ ↦ Leads.ofExcept_bind fun after _ ↦
    Leads.ofExcept_bind fun removed _ ↦ .note hs _ _

theorem tableMarkupValue_leads (data headers : Value) :
    Leads s (tableMarkupValue data headers) s s :=
  .bind (.ask _) fun _ ↦ .pure _

/-- A journal that is put to use is in use even if there is no such level. -/
theorem toConsoleValue_leads (level : Value) :
    Leads s (toConsoleValue level) { s with disabled := false } { s with disabled := false } := by
  refine .bind (.write fun j h ↦ h.toConsole) fun _ ↦ ?_
  exact Leads.ofExcept_bind fun level _ ↦ .write fun j h ↦ h.setLevel level

/-! ### Titles -/

/-- Whether a title is a text that is not empty. -/
def isTitle : Value → Bool
  | .text title => !title.isEmpty
  | _ => false

theorem eq_text_of_escapable {v : Value} {text : String} (h : escapable v = .ok text) :
    v = .text text := by
  cases v with
  | text s => rw [Except.ok.inj h]
  | _ => exact nomatch h

/-- A title that counts as true is one, if it can be written. -/
theorem isTitle_of_escapable {v : Value} {text : String} (h : escapable v = .ok text) :
    isTitle v = !text.isEmpty := by
  rw [eq_text_of_escapable h, isTitle]

theorem isTitle_of_not_escapable {v : Value} {e : Failure} (h : escapable v = .error e) :
    isTitle v = false := by
  cases v with
  | text s => exact nomatch h
  | _ => rfl

theorem isTitle_of_not_isTrue {v : Value} (h : ¬v.isTrue) : isTitle v = false := by
  cases v with
  | text s => simpa [Value.isTrue, isTitle] using h
  | _ => rfl

variable {matrix title : Value}

/-- A matrix is drawn with its title, if it has one that can be written. -/
theorem drawing_leads (names : List String) : Leads s (do
    let cells ← Run.ofExcept (matrixCells matrix names.length)
    let block := MatrixBlock.block names cells
    Run.write (emit .info block)
    let title ← if title.isTrue then Run.ofExcept (escapable title) else pure ""
    Run.write (append (.matrix title block)) : Run Caller Unit)
    (s.add (matrixTags (isTitle title))) s := by
  refine Leads.ofExcept_bind fun cells _ ↦ .bind (.write fun j h ↦ h.emit .info _) fun _ ↦ ?_
  refine .ite (fun _ ↦ Leads.ofExcept_bind fun text htext ↦ ?_) fun hfalse ↦ ?_
  · rw [isTitle_of_escapable htext]
    exact .write fun j h ↦ h.append (Fragment.blockTags?_matrix _ _)
  · rw [isTitle_of_not_isTrue hfalse, pure_bind]
    exact .write fun j h ↦ h.append (Fragment.blockTags?_matrix _ _)

/-- Whether there are labels, as far as that can be told. -/
def hasLabels (labels : Value) : Bool :=
  match labels.size with
  | .ok size => size ≠ 0
  | .error _ => true

/-- Nothing is drawn of a matrix without labels. -/
theorem matrixValue_leads (matrix labels : Value) (naming : Naming) (title : Value) :
    Leads s (matrixValue matrix labels naming title)
      (s.unlessDisabled fun s ↦
        if hasLabels labels then s.add (matrixTags (isTitle title)) else s) s := by
  refine .journalled fun _ ↦ Leads.ofExcept_bind fun size hsize ↦ ?_
  have hlabels : hasLabels labels = decide (size ≠ 0) := by rw [hasLabels, hsize]
  rw [hlabels]
  by_cases hzero : size = 0
  · rw [if_pos hzero, if_neg (by simpa using hzero)]
    exact .pure ()
  · rw [if_neg hzero, if_pos (by simpa using hzero)]
    refine .bind (.ask _) fun labels ↦ Leads.ofExcept_bind fun names _ ↦
      Leads.ofExcept_bind fun names _ ↦ ?_
    refine .ite (fun _ ↦ Leads.ofExcept_bind fun wording _ ↦ ?_) fun _ ↦ drawing_leads names
    exact .bind (.write fun j h ↦ h.emit .info (titleLine wording)) fun _ ↦ drawing_leads names

/-! ### Tables -/

/-- The shape that a table is found to have once it is laid out. -/
def tableShape (typeset : Typesetter) (data headers style alignments : Value) (c : Caller) :
    Shape :=
  match (do typeset data headers style alignments; tableParts data headers) c with
  | (.ok (head, rows), _) => .of head rows
  | (.error _, _) => .of none []

theorem wordings_list (xs : List Value) :
    Call.Ends (Value.list xs).wordings (fun ws ↦ ws.length = xs.length) fun _ ↦ True := by
  have helements : Call.Ends (Value.list xs).elements (· = xs) fun _ ↦ True := fun _ _ ↦ rfl
  refine helements.bind fun _ h ↦ ?_
  rw [h]
  exact .ofExcept (fun _ hws ↦ (forall₂_of_mapM_eq_ok hws).length_eq.symm) fun _ _ ↦ trivial

theorem rows_list (rows : List (List Value)) :
    Call.Ends ((rows.map Value.list).mapM Value.wordings)
      (fun texts ↦ texts.map List.length = rows.map List.length) fun _ ↦ True := by
  have hrow : ∀ v ∈ rows.map Value.list, Call.Ends v.wordings
      (fun texts ↦ ∀ xs, v = .list xs → texts.length = xs.length) fun _ ↦ True := by
    intro v hv
    obtain ⟨xs, -, rfl⟩ := List.mem_map.mp hv
    refine (wordings_list xs).mono fun ws hws ys hys ↦ ?_
    rw [hws, Value.list.inj hys]
  refine (Call.Ends.mapM hrow).mono fun texts h ↦ ?_
  rw [List.forall₂_map_left_iff] at h
  refine eq_map_of_forall₂ (List.forall₂_map_right_iff.mpr ?_)
  exact h.imp fun xs ws hws ↦ hws xs rfl

theorem tableParts_list (heads : List Value) (rows : List (List Value)) :
    Call.Ends (tableParts (.list (rows.map .list)) (.list heads))
      (fun parts ↦ Shape.of parts.1 parts.2 = .ofLists heads rows) fun _ ↦ True := by
  let isHead (head : Option (List String)) : Prop :=
    head.map List.length = (Shape.ofLists heads rows).heads
  have hrest (head : Option (List String)) (hhead : isHead head) : Call.Ends (do
        let rows ← (← (Value.list (rows.map .list)).elements).mapM Value.wordings
        return (head, rows))
      (fun parts ↦ Shape.of parts.1 parts.2 = .ofLists heads rows) fun _ ↦ True := by
    have hdata : Call.Ends (Value.list (rows.map .list)).elements (· = rows.map .list)
        fun _ ↦ True := fun _ _ ↦ rfl
    refine hdata.bind fun data hdata ↦ ?_
    rw [hdata]
    refine (rows_list rows).bind fun texts htexts ↦ .pure ?_
    rw [Shape.of, hhead, htexts]
    rfl
  have hhead : Call.Ends
      (if (Value.list heads).isTrue then some <$> (Value.list heads).wordings else pure none)
      isHead fun _ ↦ True := by
    cases heads with
    | nil => exact .pure rfl
    | cons x xs => exact .map ((wordings_list (x :: xs)).mono fun ws hws ↦ congrArg some hws)
  have h := hhead.bind hrest
  rw [tableParts]
  split
  · next htrue => rwa [if_pos htrue] at h
  · next hfalse => rwa [if_neg hfalse] at h

/-- A table that is given as lists has the shape of the lists, if it can be drawn. -/
theorem tableShape_list (typeset : Typesetter) (heads : List Value) (rows : List (List Value))
    (style alignments : Value) (c : Caller) :
    let shape := tableShape typeset (.list (rows.map .list)) (.list heads) style alignments c
    shape = .ofLists heads rows ∨ shape = .of none [] := by
  have hends : Call.Ends (do
      typeset (.list (rows.map .list)) (.list heads) style alignments
      tableParts (.list (rows.map .list)) (.list heads))
      (fun parts ↦ Shape.of parts.1 parts.2 = .ofLists heads rows) fun _ ↦ True := by
    exact (Call.Ends.anything _).bind fun _ _ ↦ tableParts_list heads rows
  have hends := hends c trivial
  dsimp only
  rw [tableShape]
  split
  · next heq =>
    rw [heq] at hends
    exact .inl hends
  · exact .inr rfl

/-- The headers of a table, if none are given. -/
def givenHeaders (headers : Value) : Value :=
  if headers.isNothing then .list [] else headers

variable {typeset : Typesetter} {data headers style alignments : Value}

/-- A table is laid out and written below its title. -/
theorem drawing_outlined (c : Caller) :
    Triple (fun w ↦ Run.Outlined s w ∧ w.caller = c) (do
      Run.ask (typeset data headers style alignments)
      let style ← Run.ofExcept style.wording
      Run.write (emit .info (tableRecord style))
      let (head, rows) ← Run.ask (tableParts data headers)
      Run.write (append (.table head rows)))
    (fun _ ↦ Run.Outlined (s.add (tableTags (tableShape typeset data headers style alignments c))))
    (fun _ ↦ Run.Outlined s) := by
  rintro ⟨j, c⟩ ⟨hj, rfl⟩
  simp only [Call.bind_apply, Run.ask_apply, tableShape, Run.ofExcept, Run.write]
  cases typeset data headers style alignments c with
  | mk result c =>
    cases result with
    | error e => exact hj
    | ok _ =>
      cases style.wording with
      | error e => exact hj
      | ok wording =>
        have hrecord := Has.emit hj .info (tableRecord wording)
        dsimp only
        cases tableParts data headers c with
        | mk result c =>
          cases result with
          | error e => exact hrecord
          | ok parts => exact hrecord.append (Fragment.blockTags?_table parts.1 parts.2)

/-- A title that is a text stands above a table, also above one that cannot be drawn. -/
theorem tableValue_outlined (title : Value) (c : Caller) :
    Triple (fun w ↦ Run.Outlined s w ∧ w.caller = c)
      (tableValue typeset data headers title style alignments)
      (fun _ ↦ Run.Outlined (s.unlessDisabled fun s ↦ (s.headed (isTitle title)).add
        (tableTags (tableShape typeset data (givenHeaders headers) style alignments c))))
      (fun _ ↦ Run.Outlined (s.unlessDisabled (·.headed (isTitle title)))) := by
  rintro w ⟨hw, hc⟩
  have hdisabled : w.journal.disabled = s.disabled := hw.disabled
  rw [tableValue, Run.journalled_apply, hdisabled, Outline.unlessDisabled, Outline.unlessDisabled]
  cases s.disabled with
  | true => exact hw
  | false =>
    cases htitle : title.isTrue with
    | false =>
      rw [isTitle_of_not_isTrue (by simp [htitle])]
      exact drawing_outlined c w ⟨hw, hc⟩
    | true =>
      cases hescapable : escapable title with
      | ok text =>
        obtain rfl := eq_text_of_escapable hescapable
        rw [show isTitle (.text text) = true from htitle]
        have hheading :=
          (Has.emit hw .info (titleLine text)).append (Fragment.blockTags?_heading text)
        exact drawing_outlined c ⟨_, w.caller⟩ ⟨hheading, hc⟩
      | error e =>
        rw [isTitle_of_not_escapable hescapable]
        refine Leads.ofExcept_bind (t := (s.headed false).add _) (fun wording _ ↦ ?_) w hw
        refine .bind (.write fun j h ↦ h.emit .info (titleLine wording)) fun _ ↦ ?_
        exact Leads.ofExcept_bind nofun

end Journal

end Loadout
