import Loadout.Entry.Solver
import Loadout.Proofs.Outcome
import Mathlib.Data.List.Perm.Basic

/-!
# Labels of sets

The text of a set lists the labels of its elements in ascending order, each as often as it occurs,
`lists_braced`, and so it is the same in whatever order the elements come, `braced_perm`.  A vertex
that is a set has such a text for its label, so the text of a selection is the same in whatever order
the vertices come, and the elements of each.  This is so wherever a solver makes such a text,
`Value.texts_reordered`.
-/

namespace Loadout

/-! ## Sorted labels -/

/-- A text lists labels in ascending order, each as often as it occurs.  A sign of its own stands for
none. -/
def Lists (labels : List String) (text : String) : Prop :=
  ∃ sorted : List String, sorted.Perm labels ∧ sorted.Pairwise (· ≤ ·) ∧
    text = if sorted = [] then "∅" else Value.inBraces sorted

theorem lists_braced (labels : List String) : Lists labels (braced labels) := by
  have hle (a b : String) : (!decide (b < a)) = true ↔ a ≤ b := by
    rw [Bool.not_eq_true', decide_eq_false_iff_not, String.not_lt]
  have hsorted : (labels.mergeSort fun a b ↦ !decide (b < a)).Pairwise (· ≤ ·) := by
    refine (List.pairwise_mergeSort (fun a b c hab hbc ↦ ?_) (fun a b ↦ ?_) labels).imp
      fun h ↦ (hle _ _).mp h
    · exact (hle a c).mpr (String.le_trans ((hle a b).mp hab) ((hle b c).mp hbc))
    · rw [Bool.or_eq_true, hle, hle]
      exact String.le_total a b
  have hperm := List.mergeSort_perm labels fun a b ↦ !decide (b < a)
  refine ⟨_, hperm, hsorted, ?_⟩
  rw [braced]
  refine if_congr ?_ rfl rfl
  rw [List.isEmpty_iff, ← List.length_eq_zero_iff, ← List.length_eq_zero_iff, hperm.length_eq]

/-- Labels are listed in one way, whatever order they come in. -/
theorem Lists.unique {labels labels' : List String} {text text' : String} (h : Lists labels text)
    (h' : Lists labels' text') (hperm : labels.Perm labels') : text = text' := by
  obtain ⟨sorted, hsorted, hascending, rfl⟩ := h
  obtain ⟨sorted', hsorted', hascending', rfl⟩ := h'
  have hsame : sorted = sorted' :=
    ((hsorted.trans hperm).trans hsorted'.symm).eq_of_pairwise
      (fun _ _ _ _ ↦ String.le_antisymm) hascending hascending'
  rw [hsame]

theorem braced_perm {labels labels' : List String} (h : labels.Perm labels') :
    braced labels = braced labels' :=
  (lists_braced labels).unique (lists_braced labels') h

/-! ## Values in another order -/

namespace Value

variable {v w : Value} {xs ys : List Value} {labels : List String} {text : String}

/-- The values have the labels, in order. -/
abbrev HaveLabels (label : Value → Except Failure String) (xs : List Value)
    (labels : List String) : Prop :=
  List.Forall₂ (fun x s ↦ label x = .ok s) xs labels

/-- Two values are the same up to the order of what they hold: the elements of a set, or the slots of
a piece of equipment. -/
inductive Reordered : Value → Value → Prop
  | refl {v : Value} : Reordered v v
  | set {xs ys : List Value} : xs.Perm ys → Reordered (.set xs) (.set ys)
  | frozen {xs ys : List Value} : xs.Perm ys → Reordered (.frozen xs) (.frozen ys)
  | equipment {id name : Value} {slots slots' : List Value} {bonuses : List (Value × Value)} :
    slots.Perm slots' →
    Reordered (.equipment id name slots bonuses) (.equipment id name slots' bonuses)

/-- Values in another order, each of them up to the order of what it holds. -/
def SameFamily (xs ys : List Value) : Prop :=
  ∃ zs, xs.Perm zs ∧ List.Forall₂ Reordered zs ys

theorem HaveLabels.perm {label : Value → Except Failure String} (h : HaveLabels label xs labels)
    (hperm : xs.Perm ys) : ∃ labels', HaveLabels label ys labels' ∧ labels'.Perm labels :=
  List.perm_comp_forall₂ hperm.symm h

/-- The label of a set does not depend on the order of its elements. -/
theorem braced_mapM_perm (h : braced <$> xs.mapM label = .ok text) (hperm : xs.Perm ys) :
    braced <$> ys.mapM label = .ok text := by
  cases hlabels : xs.mapM label with
  | error e =>
    rw [hlabels] at h
    exact nomatch h
  | ok labels =>
    obtain ⟨labels', hys, hlabels'⟩ := HaveLabels.perm (forall₂_of_mapM_eq_ok hlabels) hperm
    rw [mapM_eq_pure_of_forall₂ hys, map_pure, braced_perm hlabels', ← h, hlabels]
    rfl

theorem Reordered.vertexLabel_eq (h : Reordered v w) (hv : v.vertexLabel = .ok text) :
    w.vertexLabel = .ok text := by
  cases h with
  | refl => exact hv
  | set hperm | frozen hperm => exact braced_mapM_perm hv hperm
  | @equipment id name => cases name <;> exact hv

theorem SameFamily.haveLabels (h : SameFamily xs ys) (hlabels : HaveLabels vertexLabel xs labels) :
    ∃ labels', HaveLabels vertexLabel ys labels' ∧ labels'.Perm labels := by
  obtain ⟨zs, hperm, hzs⟩ := h
  obtain ⟨labels', hlabels', hsame⟩ := hlabels.perm hperm
  refine ⟨labels', ?_, hsame⟩
  clear hperm hsame hlabels
  induction hzs generalizing labels' with
  | nil => exact hlabels'
  | cons hv _ ih =>
    cases hlabels' with
    | cons hlabel hlabels' => exact .cons (hv.vertexLabel_eq hlabel) (ih _ hlabels')

/-! ## Where the texts are made -/

/-- The text of a set with some elements, wherever it is made. -/
structure SetText (xs : List Value) (text : String) : Prop where
  collection : ∀ (v : Value) (c c' : Caller), v.elements c = (.ok xs, c') →
    v.setText c = (.ok text, c')
  /-- A candidate that is a collection, alone or as the owner of the selected row. -/
  row : ∀ (v : Value) (c c' : Caller), v.elements c = (.ok xs, c') →
    Entry.collectionLabels.vertex v c = (.ok text, c')
  /-- The slots of a considered candidate. -/
  slots : ∀ typeset weight slots item name number c, vertexLabel item = .ok name →
    Gear.candidateRow (Entry.wardrobe typeset weight slots) ⟨item, number, xs⟩ c =
      (.ok [name, text, Number.weightText number], c)
  vertex : (set xs).vertexLabel = .ok text ∧ (frozen xs).vertexLabel = .ok text

/-- The text of a selection of some vertices, wherever it is made. -/
structure SelectionText (xs : List Value) (text : String) : Prop where
  collection : ∀ (v : Value) (c c' : Caller), v.elements c = (.ok xs, c') →
    v.selectionText c = (.ok text, c')
  /-- The selection of a solver. -/
  selection : ∀ c, Entry.vertexLabels.selection xs c = (.ok text, c)
  /-- The selection from candidates, which are labelled by their items. -/
  gear : ∀ typeset weight slots (candidates : List (Gear.Candidate Value Value Float)) c,
    candidates.map (·.item) = xs →
    (Gear.candidateLabels (Entry.wardrobe typeset weight slots)).selection candidates c = (.ok text, c)

theorem HaveLabels.setText (h : HaveLabels label xs labels) : SetText xs (braced labels) := by
  have hlabels : xs.mapM label = .ok labels := mapM_eq_pure_of_forall₂ h
  have hcollection : ∀ (v : Value) (c c' : Caller), v.elements c = (.ok xs, c') →
      v.setText c = (.ok (braced labels), c') := by
    intro v c c' hv
    rw [Value.setText, Call.bind_apply, hv]
    dsimp only
    rw [hlabels]
    rfl
  refine ⟨hcollection, hcollection, fun typeset weight slots item name number c hname ↦ ?_, ?_⟩
  · have hslots : xs.mapM (Entry.wardrobe typeset weight slots).slotLabel = pure labels :=
      mapM_eq_pure_of_forall₂ (h.imp fun x s hx ↦ congrArg Call.ofExcept hx)
    have hitem : (Entry.wardrobe typeset weight slots).labels.vertex item = pure name :=
      congrArg Call.ofExcept hname
    rw [Gear.candidateRow, hitem, hslots]
    rfl
  · rw [vertexLabel, vertexLabel, hlabels]
    exact ⟨rfl, rfl⟩

theorem HaveLabels.selectionText (h : HaveLabels vertexLabel xs labels) :
    SelectionText xs (braced labels) := by
  have hlabels : xs.mapM vertexLabel = .ok labels := mapM_eq_pure_of_forall₂ h
  refine ⟨fun v c c' hv ↦ ?_, fun c ↦ ?_, fun typeset weight slots candidates c hitems ↦ ?_⟩
  · rw [Value.selectionText, Call.bind_apply, hv]
    dsimp only
    rw [hlabels]
    rfl
  · have hvertices : xs.mapM Entry.vertexLabels.vertex = (pure labels : Call Caller _) :=
      mapM_eq_pure_of_forall₂ (h.imp fun x s hx ↦ congrArg Call.ofExcept hx)
    rw [Labels.selection, hvertices]
    rfl
  · subst hitems
    have hcandidates :
        candidates.mapM (Gear.candidateLabels (Entry.wardrobe typeset weight slots)).vertex =
          (pure labels : Call Caller _) :=
      mapM_eq_pure_of_forall₂ <|
        (List.forall₂_map_left_iff.mp h).imp fun x s hx ↦ congrArg Call.ofExcept hx
    rw [Labels.selection, hcandidates]
    rfl

/-- Elements with labels have one text, in whatever order they come, and so have vertices, also if the
elements of each are reordered.  The text lists the labels. -/
theorem texts_reordered :
    (∀ xs ys labels, xs.Perm ys → HaveLabels label xs labels →
      ∃ text, Lists labels text ∧ SetText xs text ∧ SetText ys text) ∧
    ∀ xs ys labels, SameFamily xs ys → HaveLabels vertexLabel xs labels →
      ∃ text, Lists labels text ∧ SelectionText xs text ∧ SelectionText ys text := by
  constructor
  · intro xs ys labels hperm hlabels
    obtain ⟨labels', hys, hlabels'⟩ := hlabels.perm hperm
    exact ⟨braced labels, lists_braced labels, hlabels.setText, braced_perm hlabels' ▸ hys.setText⟩
  · intro xs ys labels hfamily hlabels
    obtain ⟨labels', hys, hlabels'⟩ := hfamily.haveLabels hlabels
    exact ⟨braced labels, lists_braced labels, hlabels.selectionText,
      braced_perm hlabels' ▸ hys.selectionText⟩

namespace Sample

/-- Values of which two have one label. -/
def mixed : List Value :=
  [.integer 1, .slot .head, .text "1"]

def helmet (slots : List Slot) : Value :=
  .equipment (.integer 7) (.text "helmet") (slots.map .slot) []

/-- A named item, a set and the empty set. -/
def family : List Value :=
  [helmet [.head, .neck], .set mixed, .frozen []]

end Sample

theorem texts_reordered_sample :
    (SetText Sample.mixed "\x7b1, 1, HEAD\x7d" ∧
      SetText [.slot .head, .text "1", .integer 1] "\x7b1, 1, HEAD\x7d") ∧
    SelectionText Sample.family "\x7bhelmet, \x7b1, 1, HEAD\x7d, ∅\x7d" ∧
    SelectionText [.frozen [], .set Sample.mixed.reverse, Sample.helmet [.neck, .head]]
      "\x7bhelmet, \x7b1, 1, HEAD\x7d, ∅\x7d" := by
  have hmixed : HaveLabels label Sample.mixed ["1", "HEAD", "1"] :=
    .cons (by decide +kernel) (.cons rfl (.cons rfl .nil))
  have hinner : Lists ["1", "HEAD", "1"] "\x7b1, 1, HEAD\x7d" :=
    ⟨["1", "1", "HEAD"], by decide, by decide, by decide⟩
  have hset : (set Sample.mixed).vertexLabel = .ok "\x7b1, 1, HEAD\x7d" :=
    (lists_braced _).unique hinner (.refl _) ▸ hmixed.setText.vertex.1
  have hfamily : HaveLabels vertexLabel Sample.family ["helmet", "\x7b1, 1, HEAD\x7d", "∅"] :=
    .cons rfl (.cons hset (.cons rfl .nil))
  have hsame : SameFamily Sample.family
      [.frozen [], .set Sample.mixed.reverse, Sample.helmet [.neck, .head]] :=
    ⟨Sample.family.reverse, (List.reverse_perm _).symm,
      .cons .refl (.cons (.set (List.reverse_perm _).symm) (.cons (.equipment (.swap ..)) .nil))⟩
  obtain ⟨text, htext, hfirst, hsecond⟩ :=
    texts_reordered.1 _ [.slot .head, .text "1", .integer 1] _
      (.trans (.swap ..) (.cons _ (.swap ..))) hmixed
  obtain rfl := htext.unique hinner (.refl _)
  obtain ⟨text, htext, hselection, hreordered⟩ := texts_reordered.2 _ _ _ hsame hfamily
  have houter : Lists ["helmet", "\x7b1, 1, HEAD\x7d", "∅"]
      "\x7bhelmet, \x7b1, 1, HEAD\x7d, ∅\x7d" :=
    ⟨["helmet", "\x7b1, 1, HEAD\x7d", "∅"], .refl _, by decide, by decide⟩
  obtain rfl := htext.unique houter (.refl _)
  exact ⟨⟨hfirst, hsecond⟩, hselection, hreordered⟩

end Value

end Loadout
