import Loadout.Text.Markup
import Mathlib.Data.String.Basic

/-!
# Markup as a forest

A forest holds texts, and elements around forests.  In its markup all texts are escaped, and every
tag that opens an element is closed at the level where it was opened, so markup that is the markup
of a forest is properly nested.

On the other side `tags` reads the tags off any text.  Off the markup of a forest it reads the tags
of the elements, whatever the texts are.
-/

namespace Loadout

theorem Text.escape_append (s t : String) : escape (s ++ t) = escape s ++ escape t := by
  rw [escape, String.toList_append, List.flatMap_append, String.ofList_append, escape, escape]

theorem Text.escape_newline : escape "\n" = "\n" := by decide

namespace Markup

/-! ## Reading tags -/

inductive Tag
  | opening (name attributes : String)
  | closing (name : String)
deriving DecidableEq, Repr

/-- The tag that is written between two brackets: a name, and what follows it from the first blank
on. -/
def Tag.ofContent : List Char → Tag
  | '/' :: name => .closing (String.ofList name)
  | cs => .opening (String.ofList (cs.takeWhile (· ≠ ' '))) (String.ofList (cs.dropWhile (· ≠ ' ')))

/-- The tags in a text that begins outside of a tag, or inside one of which something was read
already, the last character first. -/
def tagsFrom : Option (List Char) → List Char → List Tag
  | _, [] => []
  | none, c :: cs => if c = '<' then tagsFrom (some []) cs else tagsFrom none cs
  | some read, c :: cs =>
    if c = '>' then Tag.ofContent read.reverse :: tagsFrom none cs
    else tagsFrom (some (c :: read)) cs

/-- The tags in a text. -/
def tags (s : String) : List Tag :=
  tagsFrom none s.toList

/-- A part of a text has its tags whatever follows it. -/
def Reads (cs : List Char) (ts : List Tag) : Prop :=
  ∀ rest, tagsFrom none (cs ++ rest) = ts ++ tagsFrom none rest

namespace Reads

variable {cs ds : List Char} {ts us : List Tag}

theorem append (h : Reads cs ts) (h' : Reads ds us) : Reads (cs ++ ds) (ts ++ us) := by
  intro rest
  rw [List.append_assoc, h, h', List.append_assoc]

theorem text (h : '<' ∉ cs) : Reads cs [] := by
  intro rest
  induction cs with
  | nil => rfl
  | cons c cs ih =>
    rw [List.mem_cons, not_or] at h
    rw [List.cons_append, tagsFrom, if_neg (Ne.symm h.1)]
    exact ih h.2

/-- A tag is read up to its bracket. -/
private theorem tagsFrom_some (h : '>' ∉ cs) (read rest : List Char) :
    tagsFrom (some read) (cs ++ '>' :: rest)
      = Tag.ofContent (read.reverse ++ cs) :: tagsFrom none rest := by
  induction cs generalizing read with
  | nil => simp [tagsFrom]
  | cons c cs ih =>
    rw [List.mem_cons, not_or] at h
    rw [List.cons_append, tagsFrom, if_neg (Ne.symm h.1), ih h.2]
    simp

theorem tag (h : '>' ∉ cs) : Reads ('<' :: cs ++ ['>']) [Tag.ofContent cs] := by
  intro rest
  change tagsFrom (some []) (cs ++ ['>'] ++ rest) = _
  rw [List.append_assoc]
  exact tagsFrom_some h [] rest

theorem tags_eq {s : String} (h : Reads s.toList ts) : tags s = ts := by
  have h := h []
  rwa [List.append_nil, tagsFrom, List.append_nil] at h

end Reads

/-! ## Elements -/

/-- An element, whose name and attributes can be told apart and end where its tags end. -/
structure Element where
  name : String
  attributes : String := ""
  isName : name.toList.all Char.isAlphanum = true := by decide
  isApart : attributes.toList.head? = none ∨ attributes.toList.head? = some ' ' := by decide
  isInside : '>' ∉ attributes.toList := by decide

namespace Element

variable (e : Element)

def openingTag : Tag := .opening e.name e.attributes

def closingTag : Tag := .closing e.name

/-- The tags of an element around those of what is in it. -/
def around (inner : List Tag) : List Tag :=
  e.openingTag :: inner ++ [e.closingTag]

def opening : String := "<" ++ e.name ++ e.attributes ++ ">"

def closing : String := "</" ++ e.name ++ ">"

variable {e}

theorem ne_of_mem_name {c d : Char} (hc : c ∈ e.name.toList)
    (hd : ¬ d.isAlphanum := by decide) : c ≠ d := by
  rintro rfl
  exact hd (List.all_eq_true.mp e.isName c hc)

theorem not_mem_name {d : Char} (hd : ¬ d.isAlphanum := by decide) : d ∉ e.name.toList :=
  fun h ↦ ne_of_mem_name h hd rfl

theorem ofContent_opening :
    Tag.ofContent (e.name.toList ++ e.attributes.toList) = e.openingTag := by
  have hname : ∀ c ∈ e.name.toList, decide (c ≠ ' ') = true := fun c hc ↦
    decide_eq_true (ne_of_mem_name hc)
  have hsplit : Tag.ofContent (e.name.toList ++ e.attributes.toList) = .opening
      (String.ofList ((e.name.toList ++ e.attributes.toList).takeWhile (· ≠ ' ')))
      (String.ofList ((e.name.toList ++ e.attributes.toList).dropWhile (· ≠ ' '))) := by
    unfold Tag.ofContent
    split
    · next name heq =>
      -- neither a name nor a blank is the stroke of a closing tag
      exfalso
      cases hn : e.name.toList with
      | cons c cs =>
        rw [hn, List.cons_append, List.cons.injEq] at heq
        exact absurd heq.1 (ne_of_mem_name (hn ▸ List.mem_cons_self))
      | nil =>
        have hapart := e.isApart
        rw [hn, List.nil_append] at heq
        rw [heq] at hapart
        simp at hapart
    · rfl
  have hattributes : e.attributes.toList.takeWhile (· ≠ ' ') = []
      ∧ e.attributes.toList.dropWhile (· ≠ ' ') = e.attributes.toList := by
    cases ha : e.attributes.toList with
    | nil => exact ⟨rfl, rfl⟩
    | cons c cs =>
      have hapart := e.isApart
      rw [ha] at hapart
      obtain rfl : c = ' ' := by simpa using hapart
      exact ⟨rfl, rfl⟩
  rw [hsplit, List.takeWhile_append_of_pos hname, List.dropWhile_append_of_pos hname,
    hattributes.1, hattributes.2, List.append_nil, String.ofList_toList, String.ofList_toList]
  rfl

theorem reads_opening : Reads e.opening.toList [e.openingTag] := by
  have htext : e.opening.toList = '<' :: (e.name.toList ++ e.attributes.toList) ++ ['>'] := by
    simp [opening]
  rw [htext, ← ofContent_opening]
  refine Reads.tag fun h ↦ ?_
  rcases List.mem_append.mp h with h | h
  · exact absurd h not_mem_name
  · exact e.isInside h

theorem reads_closing : Reads e.closing.toList [e.closingTag] := by
  have htext : e.closing.toList = '<' :: ('/' :: e.name.toList) ++ ['>'] := by
    simp [closing]
  have htag : Tag.ofContent ('/' :: e.name.toList) = e.closingTag := by
    rw [Tag.ofContent, String.ofList_toList, closingTag]
  rw [htext, ← htag]
  refine Reads.tag fun h ↦ ?_
  rcases List.mem_cons.mp h with h | h
  · exact nomatch h
  · exact absurd h not_mem_name

end Element

/-! ## Forests -/

inductive Forest
  | nil
  | text (s : String) (rest : Forest)
  | element (e : Element) (inner rest : Forest)

namespace Forest

/-- The markup of a forest. -/
def markup : Forest → String
  | nil => ""
  | text s rest => Text.escape s ++ rest.markup
  | element e inner rest => e.opening ++ inner.markup ++ e.closing ++ rest.markup

def tags : Forest → List Tag
  | nil => []
  | text _ rest => rest.tags
  | element e inner rest => e.around inner.tags ++ rest.tags

def append : Forest → Forest → Forest
  | nil, g => g
  | text s rest, g => text s (rest.append g)
  | element e inner rest, g => element e inner (rest.append g)

instance : Append Forest := ⟨append⟩

/-- The forest of a single text. -/
def ofText (s : String) : Forest :=
  text s nil

/-- The forest of a single element. -/
def within (e : Element) (inner : Forest) : Forest :=
  element e inner nil

variable (f g : Forest) (e : Element) (s : String)

@[simp] theorem markup_append : (f ++ g).markup = f.markup ++ g.markup := by
  change (f.append g).markup = _
  induction f with
  | nil => rw [append, markup, String.empty_append]
  | text s rest ih => rw [append, markup, ih, markup, String.append_assoc]
  | element e inner rest _ ih => rw [append, markup, ih, markup, ← String.append_assoc]

@[simp] theorem tags_append : (f ++ g).tags = f.tags ++ g.tags := by
  change (f.append g).tags = _
  induction f with
  | nil => rfl
  | text s rest ih => exact ih
  | element e inner rest _ ih => rw [append, tags, ih, tags, List.append_assoc]

@[simp] theorem markup_nil : nil.markup = "" := rfl

@[simp] theorem tags_nil : nil.tags = [] := rfl

@[simp] theorem markup_ofText : (ofText s).markup = Text.escape s := String.append_empty

@[simp] theorem tags_ofText : (ofText s).tags = [] := rfl

@[simp] theorem markup_within : (within e f).markup = e.opening ++ f.markup ++ e.closing :=
  String.append_empty

@[simp] theorem tags_within : (within e f).tags = e.around f.tags := List.append_nil _

theorem reads_markup : Reads f.markup.toList f.tags := by
  induction f with
  | nil => exact fun _ ↦ rfl
  | text s rest ih =>
    rw [markup, String.toList_append]
    exact (Reads.text (Text.not_mem_escape (.inl rfl) s)).append ih
  | element e inner rest ihi ihr =>
    rw [markup, String.toList_append, String.toList_append, String.toList_append]
    exact ((Element.reads_opening.append ihi).append Element.reads_closing).append ihr

/-- The tags in the markup of a forest are the tags of its elements. -/
theorem tags_markup : Markup.tags f.markup = f.tags :=
  (reads_markup f).tags_eq

end Forest

end Markup

end Loadout
