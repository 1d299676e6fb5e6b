import Loadout.Proofs.Journal.Fragments

/-!
# Sections

`Written` says how fragments follow one another in a transcript: a section begins where none is
open, and ends where one is.  Then sections are not nested (`Flat`), and the fragments are the
markup of a forest, but for a last section that is still open (`Fills`).
-/

namespace Loadout

open Markup

/-! ## Sections among tags -/

/-- Tags none of which belongs to a section. -/
def Undivided (ts : List Tag) : Prop :=
  ∀ t ∈ ts, t ≠ Element.division.openingTag ∧ t ≠ Element.division.closingTag

namespace Undivided

variable {e : Element} {ts us : List Tag}

theorem nil : Undivided [] :=
  fun _ h ↦ nomatch h

theorem append (h : Undivided ts) (h' : Undivided us) : Undivided (ts ++ us) := by
  intro t ht
  rcases List.mem_append.mp ht with ht | ht
  · exact h t ht
  · exact h' t ht

theorem opening (he : e.name ≠ Element.division.name := by decide) : Undivided [e.openingTag] := by
  intro t ht
  rw [List.mem_singleton.mp ht]
  exact ⟨fun heq ↦ he (Tag.opening.inj heq).1, nofun⟩

theorem closing (he : e.name ≠ Element.division.name := by decide) : Undivided [e.closingTag] := by
  intro t ht
  rw [List.mem_singleton.mp ht]
  exact ⟨nofun, fun heq ↦ he (Tag.closing.inj heq)⟩

theorem around (h : Undivided ts) (he : e.name ≠ Element.division.name := by decide) :
    Undivided (e.around ts) :=
  (opening he).append (h.append (closing he))

theorem flatten {tss : List (List Tag)} (h : ∀ ts ∈ tss, Undivided ts) : Undivided tss.flatten := by
  intro t ht
  obtain ⟨ts, hts, ht⟩ := List.mem_flatten.mp ht
  exact h ts hts t ht

theorem repeated (count : Nat) (he : e.name ≠ Element.division.name := by decide) :
    Undivided (Markup.repeated e count) := by
  apply flatten
  intro ts hts
  rw [List.eq_of_mem_replicate hts]
  exact nil.around he

theorem headTags (heads : Option Nat) : Undivided (Markup.headTags heads) := by
  cases heads with
  | none => exact nil
  | some count => exact (repeated count).around.around

theorem tableTags (shape : Shape) : Undivided (Markup.tableTags shape) := by
  have hrows : Undivided
      (shape.rows.flatMap fun count ↦ Element.row.around (Markup.repeated .cell count)) := by
    refine flatten fun ts hts ↦ ?_
    obtain ⟨count, -, rfl⟩ := List.mem_map.mp hts
    exact (repeated count).around
  exact ((headTags shape.heads).append hrows.around).around.around

theorem matrixTags (titled : Bool) : Undivided (Markup.matrixTags titled) := by
  have hblock : Undivided (Element.matrixBlock.around []) := nil.around
  cases titled with
  | false => exact hblock.around
  | true => exact (nil.around.append hblock).around

/-- No block begins or ends a section. -/
theorem of_block {f : Fragment} (h : f.blockTags? = some ts) : Undivided ts := by
  cases f with
  | note severity text =>
    cases h
    exact nil.around (show "p" ≠ Element.division.name by decide)
  | result name value =>
    cases h
    exact nil.around.around
  | heading title =>
    cases h
    exact nil.around
  | table headers rows =>
    rw [Fragment.blockTags?_table] at h
    cases h
    exact tableTags _
  | matrix title block =>
    rw [Fragment.blockTags?_matrix] at h
    cases h
    exact matrixTags _
  | sectionStart | sectionEnd | markup | «foreign» => exact nomatch h

end Undivided

/-- At each place at most one section is open, and at the end one is open or none is. -/
structure Flat (isOpen : Bool) (ts : List Tag) : Prop where
  balanced : ts.count Element.division.openingTag
    = ts.count Element.division.closingTag + isOpen.toNat
  unnested : ∀ p, p <+: ts →
    p.count Element.division.closingTag ≤ p.count Element.division.openingTag
      ∧ p.count Element.division.openingTag ≤ p.count Element.division.closingTag + 1

namespace Flat

variable {isOpen : Bool} {ts us : List Tag}

theorem nil : Flat false [] where
  balanced := rfl
  unnested := by
    intro p hp
    rw [List.prefix_nil.mp hp]
    simp

/-- One more tag opens a section, closes one or does not belong to one. -/
private theorem concat {t : Tag} {isOpen' : Bool} (h : Flat isOpen ts)
    (hbalanced : (ts ++ [t]).count Element.division.openingTag
      = (ts ++ [t]).count Element.division.closingTag + isOpen'.toNat) :
    Flat isOpen' (ts ++ [t]) where
  balanced := hbalanced
  unnested := by
    intro p hp
    rcases List.prefix_concat_iff.mp hp with rfl | hp
    · have := isOpen'.toNat_le
      omega
    · exact h.unnested p hp

theorem append (h : Flat isOpen ts) (hus : Undivided us) : Flat isOpen (ts ++ us) := by
  induction us generalizing ts with
  | nil => rwa [List.append_nil]
  | cons u us ih =>
    obtain ⟨hopening, hclosing⟩ := hus u List.mem_cons_self
    have hconcat : Flat isOpen (ts ++ [u]) := by
      refine h.concat ?_
      simp [List.count_append, hopening, hclosing, h.balanced]
    rw [List.append_cons]
    exact ih hconcat fun t ht ↦ hus t (List.mem_cons_of_mem _ ht)

theorem opening (h : Flat false ts) : Flat true (ts ++ [Element.division.openingTag]) := by
  refine h.concat ?_
  have hne : Element.division.openingTag ≠ Element.division.closingTag := by decide
  simp [List.count_append, hne, h.balanced]

theorem closing (h : Flat true ts) : Flat false (ts ++ [Element.division.closingTag]) := by
  refine h.concat ?_
  have hne : Element.division.closingTag ≠ Element.division.openingTag := by decide
  simp [List.count_append, hne, h.balanced]

theorem cons {t : Tag} (ht : Undivided [t]) (h : Flat isOpen ts) : Flat isOpen (t :: ts) := by
  obtain ⟨hopening, hclosing⟩ := ht t List.mem_cons_self
  constructor
  · simp [hopening, hclosing, h.balanced]
  · intro p hp
    rcases List.prefix_cons_iff.mp hp with rfl | ⟨q, rfl, hq⟩
    · simp
    · simpa [hopening, hclosing] using h.unnested q hq

end Flat

/-! ## What is written to a transcript -/

/-- Fragments with their tags that may follow one another, a section being open at the end or not:
blocks stand anywhere, a section begins where none is open and ends where one is. -/
inductive Written : Bool → List Fragment → List Tag → Prop
  | nil : Written false [] []
  | block {isOpen fs ts f us} : Written isOpen fs ts → f.blockTags? = some us →
      Written isOpen (fs ++ [f]) (ts ++ us)
  | sectionStart {fs ts} (title : String) : Written false fs ts →
      Written true (fs ++ [.sectionStart title]) (ts ++ sectionTags)
  | sectionEnd {fs ts} : Written true fs ts →
      Written false (fs ++ [.sectionEnd]) (ts ++ [Element.division.closingTag])

theorem Written.flat {isOpen : Bool} {fs : List Fragment} {ts : List Tag}
    (h : Written isOpen fs ts) : Flat isOpen ts := by
  induction h with
  | nil => exact .nil
  | block _ hf ih => exact ih.append (.of_block hf)
  | sectionStart title _ ih =>
    have htitle : Undivided (Element.divisionTitle.around []) := Undivided.nil.around
    have h := ih.opening.append htitle
    rwa [List.append_assoc] at h
  | sectionEnd _ ih => exact ih.closing

/-- A text is the markup of a forest, or of two with the beginning of a section in between that is
still open. -/
inductive Fills : Bool → String → List Tag → Prop
  | closed (f : Forest) : Fills false f.markup f.tags
  | unclosed (before inner : Forest) :
      Fills true (before.markup ++ Element.division.opening ++ inner.markup)
        (before.tags ++ Element.division.openingTag :: inner.tags)

namespace Fills

variable {isOpen : Bool} {s : String} {ts : List Tag}

theorem append (h : Fills isOpen s ts) (m : Forest) :
    Fills isOpen (s ++ m.markup) (ts ++ m.tags) := by
  cases h with
  | closed f =>
    rw [← Forest.markup_append, ← Forest.tags_append]
    exact .closed (f ++ m)
  | unclosed before inner =>
    rw [String.append_assoc, ← Forest.markup_append, List.append_assoc, List.cons_append,
      ← Forest.tags_append]
    exact .unclosed before (inner ++ m)

theorem opening (h : Fills false s ts) :
    Fills true (s ++ Element.division.opening) (ts ++ [Element.division.openingTag]) := by
  cases h with
  | closed f =>
    have h := Fills.unclosed f .nil
    rwa [Forest.markup_nil, String.append_empty] at h

theorem closing (h : Fills true s ts) :
    Fills false (s ++ Element.division.closing) (ts ++ [Element.division.closingTag]) := by
  cases h with
  | unclosed before inner =>
    have h := Fills.closed (before ++ .within .division inner)
    rw [Forest.markup_append, Forest.tags_append, Forest.markup_within, Forest.tags_within,
      Element.around] at h
    simpa only [String.append_assoc, List.append_assoc] using h

theorem exists_forest (h : Fills false s ts) : ∃ f : Forest, f.markup = s ∧ f.tags = ts := by
  cases h with
  | closed f => exact ⟨f, rfl, rfl⟩

end Fills

/-! ## Pages -/

open Forest (within ofText)

/-- The content of a transcript is what its fragments are written as. -/
theorem Transcript.joinFrom_of_forall₂ {fs : List Fragment} {content : List String}
    (h : List.Forall₂ (fun f s ↦ f.html = .ok s) fs content) (position : Nat) :
    joinFrom position fs = .ok content := by
  induction h generalizing position with
  | nil => rfl
  | cons hf _ ih =>
    rw [joinFrom, hf, ih]
    rfl

/-- A section begins with the beginning of an element, and a title in it. -/
theorem html_sectionStart (title : String) : (Fragment.sectionStart title).html
    = .ok (Element.division.opening ++ (within .divisionTitle (ofText title)).markup) := by
  rw [Fragment.html, Forest.markup_within, Forest.markup_ofText]
  simp only [String.append_assoc]
  rfl

theorem tags_sectionStart (title : String) :
    tags (Element.division.opening ++ (within .divisionTitle (ofText title)).markup)
      = sectionTags := by
  have htitle := Forest.reads_markup (within .divisionTitle (ofText title))
  have h := (Element.reads_opening (e := .division)).append htitle
  rw [← String.toList_append] at h
  exact h.tags_eq

theorem ended_concat (content : List String) (s : String) :
    ended (content ++ [s]) = ended content ++ s ++ (ofText "\n").markup := by
  rw [ended_append, ended, ended, String.append_empty, Forest.markup_ofText, Text.escape_newline,
    ← String.append_assoc]

/-- Everything that is written can be joined, has its tags, and is the markup of a forest but for a
section that is open. -/
theorem Written.fills {isOpen : Bool} {fs : List Fragment} {ts : List Tag}
    (h : Written isOpen fs ts) : ∃ content, List.Forall₂ (fun f s ↦ f.html = .ok s) fs content
      ∧ content.flatMap tags = ts ∧ Fills isOpen (ended content) ts := by
  -- the line that is ended by a newline has the same tags
  have hnewline (us : List Tag) : us ++ (ofText "\n").tags = us := List.append_nil us
  induction h with
  | nil => exact ⟨[], .nil, rfl, .closed .nil⟩
  | @block isOpen fs ts f us _ hf ih =>
    obtain ⟨content, hfs, htags, hfills⟩ := ih
    obtain ⟨m, hm, rfl⟩ := Option.map_eq_some_iff.mp hf
    refine ⟨content ++ [m.markup], List.rel_append hfs (.cons (html_of_forest hm) .nil), ?_, ?_⟩
    · rw [List.flatMap_append, htags, List.flatMap_singleton, Forest.tags_markup]
    · rw [ended_concat]
      have h := (hfills.append m).append (ofText "\n")
      rwa [hnewline] at h
  | sectionStart title _ ih =>
    obtain ⟨content, hfs, htags, hfills⟩ := ih
    refine ⟨content ++ [_], List.rel_append hfs (.cons (html_sectionStart title) .nil), ?_, ?_⟩
    · rw [List.flatMap_append, htags, List.flatMap_singleton, tags_sectionStart]
    · rw [ended_concat, ← String.append_assoc]
      have h := (hfills.opening.append (within .divisionTitle (ofText title))).append (ofText "\n")
      rwa [hnewline, Forest.tags_within, Forest.tags_ofText, List.append_assoc] at h
  | sectionEnd _ ih =>
    obtain ⟨content, hfs, htags, hfills⟩ := ih
    refine ⟨content ++ [Element.division.closing], List.rel_append hfs (.cons rfl .nil), ?_, ?_⟩
    · rw [List.flatMap_append, htags, List.flatMap_singleton, Element.reads_closing.tags_eq]
    · rw [ended_concat]
      have h := hfills.closing.append (ofText "\n")
      rwa [hnewline] at h

/-- The lines that a page ends with before its last one, and their tags. -/
def closingLines (isOpen : Bool) : List String :=
  if isOpen then [Element.division.closing] else []

def closingTags (isOpen : Bool) : List Tag :=
  if isOpen then [Element.division.closingTag] else []

theorem Fills.closed_up {isOpen : Bool} {s : String} {ts : List Tag} (h : Fills isOpen s ts) :
    Fills false (s ++ ended (closingLines isOpen)) (ts ++ closingTags isOpen) := by
  cases isOpen with
  | false => exact h.append .nil
  | true =>
    have h := h.closing.append (ofText "\n")
    rw [Forest.markup_ofText, Text.escape_newline, Forest.tags_ofText, List.append_nil] at h
    rwa [closingLines, if_pos rfl, ended, ended, String.append_empty, ← String.append_assoc]

theorem Flat.closed_up {isOpen : Bool} {ts : List Tag} (h : Flat isOpen ts) :
    Flat false (ts ++ closingTags isOpen) := by
  cases isOpen with
  | false => exact h.append .nil
  | true => exact h.closing

theorem Transcript.html_eq {t : Transcript} {content : List String}
    (h : joinFrom 1 t.fragments = .ok content) :
    t.html = .ok (Element.content.opening ++ "\n"
      ++ (ended content ++ ended (closingLines t.sectionOpen)) ++ Element.content.closing) := by
  have hpage : t.html = .ok ("\n".intercalate
      ((Element.content.opening :: (content ++ closingLines t.sectionOpen))
        ++ [Element.content.closing])) := by
    rw [Transcript.html, h]
    rfl
  rw [hpage, intercalate_concat, ended, ended_append]

/-- How a transcript reads: its content, line by line, and the page.  One more section begins in the
content than ends there if a section is open, and as many if none is.  The page is one division
around a forest, so all its tags match and all texts in it are escaped, and none of its sections is
in another one. -/
structure Transcript.Reads (t : Transcript) (content : List String) (page : String) : Prop where
  content_eq : joinFrom 1 t.fragments = .ok content
  balanced : Flat t.sectionOpen (content.flatMap tags)
  page_eq : t.html = .ok page
  nested : ∃ inner : Forest, page = (within .content inner).markup
  unnested : Flat false (tags page)

theorem Written.reads {t : Transcript} {ts : List Tag}
    (h : Written t.sectionOpen t.fragments ts) : ∃ content page, t.Reads content page
      ∧ tags page = Element.content.around (ts ++ closingTags t.sectionOpen) := by
  obtain ⟨content, hfs, htags, hfills⟩ := h.fills
  have hcontent := Transcript.joinFrom_of_forall₂ hfs 1
  obtain ⟨inner, hinner, hts⟩ := hfills.closed_up.exists_forest
  have hpage : tags (within .content (ofText "\n" ++ inner)).markup
      = Element.content.around (ts ++ closingTags t.sectionOpen) := by
    rw [Forest.tags_markup, Forest.tags_within, Forest.tags_append, Forest.tags_ofText,
      List.nil_append, hts]
  refine ⟨content, _, ⟨hcontent, ?_, ?_, ⟨ofText "\n" ++ inner, rfl⟩, ?_⟩, hpage⟩
  · rw [htags]
    exact h.flat
  · rw [Transcript.html_eq hcontent, ← hinner, Forest.markup_within, Forest.markup_append,
      Forest.markup_ofText, Text.escape_newline, ← String.append_assoc]
  · have hflat := h.flat.closed_up.append (Undivided.closing (e := .content))
    rw [hpage]
    exact hflat.cons .opening

end Loadout
