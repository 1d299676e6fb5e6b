import Loadout.Proofs.Journal.Records
import Loadout.Proofs.Selection.Exhaustive

/-!
# The search by backtracking

The exhaustive search can be carried out by calls that all share one list of selected indices: an
index is pushed before the call that takes it, and popped afterwards.  This is what `walk` does, and
it comes to the same as the search that hands its selection on, `walk_eq`.  It leaves the
shared list as it finds it and reaches one leaf after the other, which together are the plain
enumeration of what can be selected, `enumerates`.  Nothing is assumed of sums and comparisons.

The replacements of the best selection are what a run of the search notes, `find_enumerates`.
-/

namespace Loadout

variable {τ α ω φ : Type}

/-- What the calls of a search share: the selected indices, the best selection so far, and the
selections at the leaves that have been reached. -/
structure Walk (φ : Type) where
  selected : List Nat
  progress : Progress φ
  leaves : List (Choice φ)

namespace Walk

/-- The beginning of a search. -/
def start [Zero φ] : Walk φ :=
  ⟨[], .start, []⟩

def push (i : Nat) (s : Walk φ) : Walk φ :=
  { s with selected := s.selected ++ [i] }

def pop (s : Walk φ) : Walk φ :=
  { s with selected := s.selected.dropLast }

/-- Consider what is selected when all indices have been decided. -/
def reach [LT φ] [DecidableLT φ] (weight : φ) (s : Walk φ) : Walk φ where
  selected := s.selected
  progress := s.progress.consider ⟨weight, s.selected⟩
  leaves := s.leaves ++ [⟨weight, s.selected⟩]

end Walk

section Search

variable [Add φ] [LT φ] [DecidableLT φ]

/-- Decide the remaining indices, given the weight of what is selected. -/
def walk (conflict : Nat → Nat → Bool) : List (φ × Nat) → φ → Walk φ → Walk φ
  | [], sum, s => s.reach sum
  | (weight, i) :: rest, sum, s =>
    let s :=
      if s.selected.any (conflict i) then s
      else (walk conflict rest (sum + weight) (s.push i)).pop
    walk conflict rest sum s

variable {conflict : Nat → Nat → Bool}

/-- A call leaves the selected indices as it finds them, and considers in order the choices that
extend them. -/
theorem walk_eq (rest : List (φ × Nat)) (sum : φ) (s : Walk φ) :
    walk conflict rest sum s =
      ⟨s.selected,
        (choicesFrom conflict rest ⟨sum, s.selected⟩).foldl Progress.consider s.progress,
        s.leaves ++ choicesFrom conflict rest ⟨sum, s.selected⟩⟩ := by
  induction rest generalizing sum s with
  | nil => rfl
  | cons item rest ih =>
    obtain ⟨weight, i⟩ := item
    simp only [walk, choicesFrom]
    split
    · rw [ih, List.nil_append]
    · simp only [ih, Walk.pop, Walk.push, List.dropLast_concat, List.foldl_append,
        List.append_assoc]

end Search

/-! ## Replacing the best choice -/

section Replacing

variable [LT φ] [DecidableLT φ]

/-- Replace a choice by another one that is strictly heavier. -/
def Choice.orHeavier (best c : Choice φ) : Choice φ :=
  if best.weight < c.weight then c else best

/-- The choices that replace the best one when a list is gone through. -/
def replacements : Choice φ → List (Choice φ) → List (Choice φ)
  | _, [] => []
  | best, c :: choices =>
    if best.weight < c.weight then c :: replacements c choices else replacements best choices

theorem Progress.foldl_consider_eq (choices : List (Choice φ)) (p : Progress φ) :
    choices.foldl consider p =
      ⟨choices.foldl Choice.orHeavier p.best,
        (replacements p.best choices).reverse ++ p.improvements⟩ := by
  induction choices generalizing p with
  | nil => rfl
  | cons c choices ih =>
    simp only [List.foldl_cons, ih, consider, Choice.orHeavier, replacements]
    split
    · rw [List.reverse_cons, List.append_assoc, List.singleton_append]
    · rfl

end Replacing

/-! ## The enumeration -/

section Enumeration

variable [Zero φ] [Add φ] [LT φ] [DecidableLT φ] {conflict : Nat → Nat → Bool} {weights : List φ}

/-- The search through all selections of vertices with the given weights. -/
def fullWalk (conflict : Nat → Nat → Bool) (weights : List φ) : Walk φ :=
  walk conflict weights.zipIdx 0 .start

theorem fullWalk_eq (conflict : Nat → Nat → Bool) (weights : List φ) :
    fullWalk conflict weights =
      ⟨[], searchAll conflict weights, choicesFrom conflict weights.zipIdx ⟨0, []⟩⟩ := by
  rw [fullWalk, walk_eq, searchAll, searchFrom_eq_foldl]
  rfl

omit [LT φ] [DecidableLT φ] in
/-- The indices of items are ascending places, and with each goes its weight. -/
theorem weight_extend_zipIdx {items : List (φ × Nat)} (hitems : items.Sublist weights.zipIdx) :
    ((⟨0, []⟩ : Choice φ).extend items).weight =
      (valuesAt weights (items.map Prod.snd)).foldl (· + ·) 0 := by
  have hvalues : valuesAt weights (items.map Prod.snd) = items.map Prod.fst := by
    rw [valuesAt, List.filterMap_map]
    refine List.filterMap_eq_map_iff_forall_eq_some.mpr fun item hitem ↦ ?_
    exact List.mem_zipIdx_iff_getElem?.mp (hitems.subset hitem)
  rw [hvalues, List.foldl_map]
  rfl

/-- A search by backtracking is the plain enumeration of what can be selected. -/
structure Enumerates (conflict : Nat → Nat → Bool) (weights : List φ) : Prop where
  /-- Each call leaves the selected indices as it finds them. -/
  restores : ∀ (rest : List (φ × Nat)) (sum : φ) (s : Walk φ),
    (walk conflict rest sum s).selected = s.selected
  /-- The leaves are the ascending lists in which no index conflicts with an earlier one … -/
  leaf_iff : ∀ indices, indices ∈ (fullWalk conflict weights).leaves.map Choice.members ↔
    indices.Sublist (List.range weights.length) ∧ indices.Pairwise fun j i ↦ conflict i j = false
  /-- … each of them reached once … -/
  once : ((fullWalk conflict weights).leaves.map Choice.members).Nodup
  /-- … and what takes an index before what leaves it out. -/
  ordered : ((fullWalk conflict weights).leaves.map Choice.members).Pairwise Precedes
  weight_eq : ∀ c ∈ (fullWalk conflict weights).leaves,
    c.weight = (valuesAt weights c.members).foldl (· + ·) 0
  best_eq : (fullWalk conflict weights).progress.best =
    (fullWalk conflict weights).leaves.foldl Choice.orHeavier ⟨0, []⟩
  /-- Nothing else comes of the search that hands its selection on. -/
  search_eq : searchAll conflict weights = (fullWalk conflict weights).progress

theorem Precedes.ne {a b : List Nat} (h : Precedes a b) : a ≠ b := by
  rintro rfl
  obtain ⟨i, hi, hnot, -⟩ := h
  exact hnot hi

theorem pairwise_leaves (conflict : Nat → Nat → Bool) (weights : List φ) :
    ((fullWalk conflict weights).leaves.map Choice.members).Pairwise Precedes := by
  have hsorted : (weights.zipIdx.map Prod.snd).Pairwise (· < ·) := by
    rw [List.zipIdx_map_snd]
    exact List.pairwise_lt_range'
  rw [fullWalk_eq]
  exact List.pairwise_map.mpr (pairwise_choicesFrom hsorted (by simp))

theorem mem_leaves_iff {indices : List Nat} :
    indices ∈ (fullWalk conflict weights).leaves.map Choice.members ↔
      indices.Sublist (List.range weights.length) ∧
        indices.Pairwise fun j i ↦ conflict i j = false := by
  have hindices : weights.zipIdx.map Prod.snd = List.range weights.length := by
    rw [List.zipIdx_map_snd, ← List.range_eq_range']
  rw [fullWalk_eq, List.mem_map]
  constructor
  · rintro ⟨c, hc, rfl⟩
    obtain ⟨items, hitems, hlegal, rfl⟩ := mem_choicesFrom.mp hc
    have hsub := hitems.map Prod.snd
    rw [hindices] at hsub
    simp only [Choice.extend, List.nil_append]
    exact ⟨hsub, hlegal.pairwise⟩
  · rintro ⟨hsub, hpair⟩
    rw [← hindices] at hsub
    obtain ⟨items, hitems, rfl⟩ := List.sublist_map_iff.mp hsub
    exact ⟨_, mem_choicesFrom.mpr ⟨items, hitems, ⟨by simp, hpair⟩, rfl⟩, by simp [Choice.extend]⟩

theorem enumerates (conflict : Nat → Nat → Bool) (weights : List φ) :
    Enumerates conflict weights where
  restores rest sum s := by rw [walk_eq]
  leaf_iff _ := mem_leaves_iff
  once := (pairwise_leaves conflict weights).imp Precedes.ne
  ordered := pairwise_leaves conflict weights
  weight_eq c hc := by
    rw [fullWalk_eq] at hc
    obtain ⟨items, hitems, -, rfl⟩ := mem_choicesFrom.mp hc
    rw [weight_extend_zipIdx hitems]
    simp only [Choice.extend, List.nil_append]
  best_eq := by
    rw [fullWalk_eq, searchAll, searchFrom_eq_foldl, Progress.foldl_consider_eq]
    rfl
  search_eq := by rw [fullWalk_eq]

theorem reverse_improvements (conflict : Nat → Nat → Bool) (weights : List φ) :
    (searchAll conflict weights).improvements.reverse =
      replacements ⟨0, []⟩ (fullWalk conflict weights).leaves := by
  rw [fullWalk_eq, searchAll, searchFrom_eq_foldl, Progress.foldl_consider_eq]
  simp [Progress.start]

end Enumeration

/-! ## What is noted -/

/-- The records of the selections that replace the best one in a search. -/
def improvementRecords [Zero φ] [Add φ] [LT φ] [DecidableLT φ] (labels : Labels τ α φ)
    (conflict : Nat → Nat → Bool) (weights : List φ) : List Record :=
  (replacements ⟨0, []⟩ (fullWalk conflict weights).leaves).map fun c ↦
    ⟨.debug, Journal.improvementSentence (labels.weight c.weight)
      (Number.integerText c.members.length)⟩

namespace Exhaustive

section Run

variable [BEq α] [Zero φ] [Add φ] [LT φ] [DecidableLT φ] {labels : Labels τ α φ} {vertices : List α}
variable {conflict : α → α → Call τ Bool} {weighing : Weighing τ α ω φ} {p : α → α → Bool}
variable {weight : α → φ}

/-- A run in a journal that is in use notes the replacements, also if the text of what is selected
in the end cannot be made. -/
theorem find_notes
    (hconflict : ∀ a ∈ vertices.eraseDups, ∀ b ∈ vertices.eraseDups,
      Call.Ends (conflict a b) (· = p a b) fun _ ↦ False)
    (hnumber : ∀ a ∈ vertices.eraseDups,
      Call.Ends (weighing.number a) (· = weight a) fun _ ↦ False)
    (hsize : 2 ≤ vertices.eraseDups.length) {records last : List Record}
    (hlast : last = records ++ improvementRecords labels (tableOf p vertices.eraseDups).cell
      (vertices.eraseDups.map weight)) :
    Call.Triple (Recorded .debug false records) (find labels vertices conflict weighing)
      (fun _ ↦ Recorded .debug false last) (fun _ ↦ Recorded .debug false last) := by
  have hlarge : ¬ vertices.eraseDups.length < 2 := Nat.not_lt.mpr hsize
  simp only [find, hlarge, if_false]
  refine (Recorded.ask_total (Call.Ends.mapM_eq hnumber)).bind fun weights ↦ .of_fact ?_
  rintro rfl
  refine (Recorded.ask_total (adjacencyTable_ends hconflict)).bind fun table ↦ .of_fact ?_
  rintro rfl
  rw [reverse_improvements, hlast]
  refine (Recorded.forM fun c _ records ↦ Recorded.note _).bind fun _ ↦ ?_
  refine (Recorded.journalled fun _ ↦ ?_).bind fun _ ↦ .pure fun _ h ↦ h
  exact Call.Triple.bind (Recorded.ask _) fun text ↦ Recorded.write (.result _ _) (by decide)

/-- Whatever weights are and however they are added and compared, the search by backtracking
enumerates what can be selected, for every relation between indices; and a run that searches two
values or more notes what replaces the best selection of this enumeration, in order. -/
theorem find_enumerates
    (hconflict : ∀ a ∈ vertices.eraseDups, ∀ b ∈ vertices.eraseDups,
      Call.Ends (conflict a b) (· = p a b) fun _ ↦ False)
    (hnumber : ∀ a ∈ vertices.eraseDups,
      Call.Ends (weighing.number a) (· = weight a) fun _ ↦ False)
    (hsize : 2 ≤ vertices.eraseDups.length) (records : List Record) :
    (∀ (cells : Nat → Nat → Bool) (weights : List φ), Enumerates cells weights) ∧
      Call.Triple (Recorded .debug false records) (find labels vertices conflict weighing)
        (fun _ ↦ Recorded .debug false (records ++ improvementRecords labels
          (tableOf p vertices.eraseDups).cell (vertices.eraseDups.map weight)))
        (fun _ ↦ Recorded .debug false (records ++ improvementRecords labels
          (tableOf p vertices.eraseDups).cell (vertices.eraseDups.map weight))) :=
  ⟨enumerates, find_notes hconflict hnumber hsize rfl⟩

end Run

namespace Sample

def realLabels : Labels Unit Nat Float where
  vertex a := pure (toString a)
  weight := Number.weightText

def sumsToThree (a b : Nat) : Bool :=
  a + b == 3

/-- Weights of which one is infinite and one is undefined. -/
def realWeight (a : Nat) : Float :=
  if a = 1 then 0.5 else if a = 2 then 1 / 0 else 0 / 0

end Sample

theorem find_enumerates_sample :
    Enumerates (fun i j ↦ i == 2 && j == 0) [0.5, 0 / 0, (0.1 : Float)] ∧
      Call.Triple (Recorded .debug false [])
        (find Sample.realLabels [1, 2, 3, 1] (fun a b ↦ pure (Sample.sumsToThree a b))
          (.known Sample.realWeight))
        (fun _ ↦ Recorded .debug false
          [⟨.debug, "New best selection: 1 vertices, weight 0.5"⟩,
            ⟨.debug, "New best selection: 1 vertices, weight inf"⟩])
        (fun _ ↦ Recorded .debug false
          [⟨.debug, "New best selection: 1 vertices, weight 0.5"⟩,
            ⟨.debug, "New best selection: 1 vertices, weight inf"⟩]) := by
  have h := @find_enumerates _ _ _ _ _ _ _ _ _ Sample.realLabels [1, 2, 3, 1]
    (fun a b ↦ pure (Sample.sumsToThree a b)) (.known Sample.realWeight) _ _
    (fun _ _ _ _ ↦ .pure rfl) (fun _ _ ↦ .pure rfl) (by decide) []
  have hrecords : improvementRecords Sample.realLabels (tableOf Sample.sumsToThree [1, 2, 3]).cell
      ([1, 2, 3].map Sample.realWeight) =
        [⟨.debug, "New best selection: 1 vertices, weight 0.5"⟩,
          ⟨.debug, "New best selection: 1 vertices, weight inf"⟩] := by decide +kernel
  refine ⟨h.1 _ _, ?_⟩
  rw [← hrecords]
  exact h.2

end Exhaustive

end Loadout
