import Loadout.Entry.Graph
import Loadout.Proofs.Graph.Representation
import Loadout.Proofs.Value.Intersection

/-!
# Questions to a graph of values

A graph of values answers every question as one relation on its different vertices has it,
`consistent_of_represents`, and so does every graph that is built, `build_consistent`.  A vertex can
be asked for by any value that equals it; what equals no vertex, and what is no index, is reported.

A report quotes what was asked for.  Of a value that has no text, such as a whole number of too many
digits or a piece of equipment whose name is a number, it cannot be made: then the question fails for
want of the text, `vertexAt_unquotable`.
-/

namespace Loadout

namespace Run

variable {τ α β : Type} {act : Run τ α} {k : α → Run τ β} {a : α} {b : β} {e : Failure}

/-- A run that answers, and leaves the world as it was. -/
def Answers (act : Run τ α) (a : α) : Prop :=
  ∀ w, act w = (.ok a, w)

/-- A run that fails, and leaves a note of the failure. -/
def Reports (act : Run τ α) (e : Failure) : Prop :=
  ∀ w, act w = (.error e, { w with journal := w.journal.note .error e.message })

/-- A run that fails without a note. -/
def Breaks (act : Run τ α) (e : Failure) : Prop :=
  ∀ w, act w = (.error e, w)

theorem answers_pure (a : α) : Answers (pure a : Run τ α) a :=
  fun _ ↦ rfl

theorem Answers.bind (h : act.Answers a) (hk : (k a).Answers b) : (act >>= k).Answers b := by
  intro w
  rw [Call.bind_apply, h w]
  exact hk w

theorem Answers.bind_reports (h : act.Answers a) (hk : (k a).Reports e) :
    (act >>= k).Reports e := by
  intro w
  rw [Call.bind_apply, h w]
  exact hk w

theorem Reports.bind (h : act.Reports e) (k : α → Run τ β) : (act >>= k).Reports e := by
  intro w
  rw [Call.bind_apply, h w]

theorem Breaks.bind (h : act.Breaks e) (k : α → Run τ β) : (act >>= k).Breaks e := by
  intro w
  rw [Call.bind_apply, h w]

theorem Answers.bind_breaks (h : act.Answers a) (hk : (k a).Breaks e) : (act >>= k).Breaks e := by
  intro w
  rw [Call.bind_apply, h w]
  exact hk w

theorem Answers.not_reports (h : act.Answers a) (w : World τ) : ¬ act.Reports e := by
  intro hreports
  have hcontra := (h w).symm.trans (hreports w)
  cases (Prod.mk.inj hcontra).1

end Run

namespace Entry

open Number (integerText)
open Value (Comparable)

variable {p : Value → Value → Bool} {values : List Value} {g : ValueGraph} {i j : Nat}
variable {v w : Value} {text : String} {e : Failure}

/-! ## Values that name a vertex -/

/-- Values that can be the vertices of a graph. -/
structure CanBeVertices (values : List Value) : Prop where
  distinct : Distinct values
  comparable : ∀ a ∈ values, Comparable a
  hashable : ∀ a ∈ values, a.changeable? = none

/-- A value equals the one at a place, and can be an element of a set. -/
def Names (values : List Value) (i : Nat) (v : Value) : Prop :=
  v.changeable? = none ∧ ∃ a, values[i]? = some a ∧ (a == v) = true

theorem Names.lt (h : Names values i v) : i < values.length := by
  obtain ⟨-, a, hi, -⟩ := h
  exact (List.getElem?_eq_some_iff.mp hi).1

namespace CanBeVertices

theorem names_self (hv : CanBeVertices values) {a : Value} (hi : values[i]? = some a) :
    Names values i a := by
  have ha := List.mem_of_getElem? hi
  exact ⟨hv.hashable a ha, a, hi, (hv.comparable a ha).same_self⟩

theorem not_names_of_lt (hv : CanBeVertices values) (hij : i < j) (hi : Names values i v) :
    ¬ Names values j v := by
  rintro ⟨-, b, hj, hbv⟩
  obtain ⟨-, a, hi, hav⟩ := hi
  have hba : (b == a) = true := by
    have hva := (hv.comparable a (List.mem_of_getElem? hi)).same_symm hav
    exact (hv.comparable b (List.mem_of_getElem? hj)).same_trans hbv hva
  obtain ⟨hilt, rfl⟩ := List.getElem?_eq_some_iff.mp hi
  obtain ⟨hjlt, rfl⟩ := List.getElem?_eq_some_iff.mp hj
  have hne := List.pairwise_iff_getElem.mp hv.distinct i j hilt hjlt hij
  rw [hba] at hne
  exact Bool.noConfusion hne

/-- No value equals two vertices. -/
theorem names_unique (hv : CanBeVertices values) (hi : Names values i v) (hj : Names values j v) :
    i = j := by
  rcases Nat.lt_trichotomy i j with hlt | heq | hlt
  · exact absurd hj (hv.not_names_of_lt hlt hi)
  · exact heq
  · exact absurd hi (hv.not_names_of_lt hlt hj)

theorem indexOf?_eq_some_iff (hv : CanBeVertices g.vertices) :
    indexOf? g v = some i ↔ Names g.vertices i v := by
  rw [indexOf?]
  split
  next hchangeable =>
    obtain ⟨kind, hkind⟩ := Option.isSome_iff_exists.mp hchangeable
    simp [Names, hkind]
  next hchangeable =>
    have hnone : v.changeable? = none := by simpa using hchangeable
    rw [Graph.indexOf?, List.findIdx?_eq_some_iff_getElem]
    constructor
    · rintro ⟨hi, heq, -⟩
      exact ⟨hnone, _, List.getElem?_eq_getElem hi, heq⟩
    · intro h
      obtain ⟨a, hi, hav⟩ := h.2
      obtain ⟨hilt, rfl⟩ := List.getElem?_eq_some_iff.mp hi
      refine ⟨hilt, hav, fun j hj heq ↦ ?_⟩
      have hnames : Names g.vertices j v := ⟨hnone, _, List.getElem?_eq_getElem _, heq⟩
      exact hv.not_names_of_lt hj hnames h

theorem contains_iff (hv : CanBeVertices g.vertices) :
    contains g v = true ↔ ∃ i, Names g.vertices i v := by
  simp only [contains, Option.isSome_iff_exists, hv.indexOf?_eq_some_iff]

theorem indexOf_answers (hv : CanBeVertices g.vertices) (h : Names g.vertices i v) :
    (indexOf g v).Answers i := by
  rw [indexOf, hv.indexOf?_eq_some_iff.mpr h]
  exact Run.answers_pure i

end CanBeVertices

/-! ## Reports -/

theorem failUnknown_reports {α : Type} (h : v.shown = .ok text) :
    (failUnknown v : Run Caller α).Reports (.unknownVertex text) := by
  intro w
  rw [failUnknown, h]
  rfl

theorem failIndex_reports {α : Type} {index : Value} {size : String}
    (h : index.wording = .ok text) :
    (failIndex index (.ok size) : Run Caller α).Reports (.invalidIndex text size) := by
  intro w
  rw [failIndex, h]
  rfl

theorem failUnknown_breaks {α : Type} (h : v.shown = .error e) :
    (failUnknown v : Run Caller α).Breaks e := by
  intro w
  rw [failUnknown, h]
  rfl

theorem failIndex_breaks {α : Type} {index : Value} {size : String} (h : index.wording = .error e) :
    (failIndex index (.ok size) : Run Caller α).Breaks e := by
  intro w
  rw [failIndex, h]
  rfl

theorem indexOf_eq_failUnknown (h : contains g v = false) : indexOf g v = failUnknown v := by
  have hnone : indexOf? g v = none := by simpa [contains] using h
  rw [indexOf, hnone]

theorem indexOf_reports (hshown : v.shown = .ok text) (h : contains g v = false) :
    (indexOf g v).Reports (.unknownVertex text) :=
  indexOf_eq_failUnknown h ▸ failUnknown_reports hshown

theorem indexOf_breaks (hshown : v.shown = .error e) (h : contains g v = false) :
    (indexOf g v).Breaks e :=
  indexOf_eq_failUnknown h ▸ failUnknown_breaks hshown

/-- Whether a question about a value is answered or reported depends on whether the value is a
vertex. -/
theorem reports_iff {α : Type} {act : Run Caller α} {known : Bool}
    (hanswers : known = true → ∃ a, act.Answers a) (hreports : known = false → act.Reports e) :
    act.Reports e ↔ known = false := by
  refine ⟨fun h ↦ ?_, hreports⟩
  cases known with
  | false => rfl
  | true =>
    obtain ⟨a, ha⟩ := hanswers rfl
    exact absurd h (ha.not_reports ⟨{}, {}⟩)

/-! ## Indices -/

/-- A value is the number of a place, or an array without lengths that holds it. -/
def IsPlace (index : Value) (i : Nat) : Prop :=
  index = .integer i ∨ index = .word i ∨ index = .array .whole [] [.word i] ∨
    index = .array .large [] [.integer i]

theorem position?_eq_some_iff {index : Value} {n : Int} :
    position? index = some n ↔ index = .integer n ∨ index = .word n ∨
      index = .array .whole [] [.word n] ∨ index = .array .large [] [.integer n] := by
  constructor
  · intro h
    unfold position? at h
    split at h <;> simp_all
  · rintro (rfl | rfl | rfl | rfl) <;> rfl

theorem vertexAt_answers {index a : Value} (hindex : IsPlace index i)
    (hi : g.vertices[i]? = some a) : (vertexAt g index).Answers a := by
  have hposition : position? index = some (i : Int) := position?_eq_some_iff.mpr hindex
  simp only [vertexAt, hposition, Int.natCast_nonneg, Int.toNat_natCast, if_true, hi]
  exact Run.answers_pure a

theorem vertexAt_eq_failIndex {index : Value} (h : ∀ i < g.size, ¬ IsPlace index i) :
    vertexAt g index = failIndex index (.ok (integerText g.size)) := by
  rw [vertexAt]
  cases hposition : position? index with
  | none => rfl
  | some n =>
    dsimp only
    split
    next hn =>
      obtain ⟨i, rfl⟩ := Int.eq_ofNat_of_zero_le hn
      have hi : g.size ≤ i := by
        by_contra hi
        exact h i (Nat.lt_of_not_le hi) (position?_eq_some_iff.mp hposition)
      rw [Int.toNat_natCast, List.getElem?_eq_none hi]
    next => rfl

theorem vertexAt_reports {index : Value} (hwording : index.wording = .ok text)
    (h : ∀ i < g.size, ¬ IsPlace index i) :
    (vertexAt g index).Reports (.invalidIndex text (integerText g.size)) :=
  vertexAt_eq_failIndex h ▸ failIndex_reports hwording

theorem vertexAt_breaks {index : Value} (hwording : index.wording = .error e)
    (h : ∀ i < g.size, ¬ IsPlace index i) : (vertexAt g index).Breaks e :=
  vertexAt_eq_failIndex h ▸ failIndex_breaks hwording

/-! ## One relation behind all answers -/

/-- What a graph answers and reports when it is asked about a relation on the given vertices. -/
structure Consistent (p : Value → Value → Bool) (values : List Value) (g : ValueGraph) : Prop where
  /-- The vertex at an index has that index. -/
  vertex : ∀ i a, values[i]? = some a →
    (∀ index, IsPlace index i → (vertexAt g index).Answers a) ∧ (indexOf g a).Answers i
  /-- A value has the index of the vertex that it equals. -/
  index : ∀ i v, Names values i v → (indexOf g v).Answers i
  membership : ∀ v, contains g v = true ↔ ∃ i, Names values i v
  invalid : ∀ index text, index.wording = .ok text →
    ((vertexAt g index).Reports (.invalidIndex text (integerText values.length)) ↔
      ∀ i < values.length, ¬ IsPlace index i)
  unknown : ∀ v text, v.shown = .ok text →
    ((indexOf g v).Reports (.unknownVertex text) ↔ contains g v = false) ∧
    ((neighborCount g v).Reports (.unknownVertex text) ↔ contains g v = false) ∧
    ((neighbors g v).Reports (.unknownVertex text) ↔ contains g v = false)
  /-- Of two values, the first one that is no vertex is quoted. -/
  unknownPair : ∀ v w text, (if contains g v then w else v).shown = .ok text →
    ((isNeighbor g v w).Reports (.unknownVertex text) ↔
      (contains g v && contains g w) = false)
  /-- What would have to be reported, but cannot be quoted, fails as quoting it does. -/
  unquotable :
    (∀ index e, index.wording = .error e → (∀ i < values.length, ¬ IsPlace index i) →
      (vertexAt g index).Breaks e) ∧
    (∀ v e, v.shown = .error e → contains g v = false →
      (indexOf g v).Breaks e ∧ (neighborCount g v).Breaks e ∧ (neighbors g v).Breaks e) ∧
    ∀ v w e, (if contains g v then w else v).shown = .error e →
      (contains g v && contains g w) = false → (isNeighbor g v w).Breaks e
  adjacency : ∀ i j v w, Names values i v → Names values j w →
    ∃ b, (isNeighbor g v w).Answers b ∧ (b = true ↔ RelatedAt p values i j)
  /-- The neighbours of a vertex are those at some ascending places, as many as are counted. -/
  neighborhood : ∀ i v, Names values i v → ∃ (found : List Value) (places : List Nat),
    (neighbors g v).Answers found ∧ (neighborCount g v).Answers found.length ∧
    List.Forall₂ (fun a k ↦ values[k]? = some a) found places ∧ places.Pairwise (· < ·) ∧
    ∀ j w, Names values j w → (found.any (· == w) = true ↔ RelatedAt p values i j)
  table : ∀ i < values.length, ∀ j < values.length,
    ∃ row b, g.rows[i]? = some row ∧ row[j]? = some b ∧ (b = true ↔ RelatedAt p values i j)
  text : ∀ kind, shownAs g kind =
    kind ++ "(vertices=" ++ integerText values.length ++ ", adjacent_pairs="
      ++ integerText {e : Nat × Nat | RelatedAt p values e.1 e.2}.ncard ++ ")"

theorem CanBeVertices.isNeighbor_answers (hv : CanBeVertices g.vertices)
    (hi : Names g.vertices i v) (hj : Names g.vertices j w) :
    (isNeighbor g v w).Answers (g.areNeighbors i j) :=
  (hv.indexOf_answers hi).bind ((hv.indexOf_answers hj).bind (Run.answers_pure _))

theorem CanBeVertices.neighbors_answers (hv : CanBeVertices g.vertices)
    (hi : Names g.vertices i v) : (neighbors g v).Answers (g.neighborsAt i) :=
  (hv.indexOf_answers hi).bind (Run.answers_pure _)

theorem CanBeVertices.neighborCount_answers (hv : CanBeVertices g.vertices)
    (hi : Names g.vertices i v) : (neighborCount g v).Answers (g.countAt i) :=
  (hv.indexOf_answers hi).bind (Run.answers_pure _)

/-- What equals a vertex equals one of those at some places, if the vertex is at one of them. -/
theorem CanBeVertices.any_valuesAt_iff (hv : CanBeVertices values) {places : List Nat}
    (hj : Names values j w) : (valuesAt values places).any (· == w) = true ↔ j ∈ places := by
  simp only [List.any_eq_true, mem_valuesAt]
  constructor
  · rintro ⟨a, ⟨k, hk, hka⟩, haw⟩
    exact hv.names_unique ⟨hj.1, a, hka, haw⟩ hj ▸ hk
  · intro hmem
    obtain ⟨-, a, hja, haw⟩ := hj
    exact ⟨a, ⟨j, hmem, hja⟩, haw⟩

/-- A graph that represents a relation answers all questions as the relation has it. -/
theorem consistent_of_represents (hg : g.Represents p g.vertices)
    (hv : CanBeVertices g.vertices) : Consistent p g.vertices g where
  vertex i a hi :=
    ⟨fun index hindex ↦ vertexAt_answers hindex hi, hv.indexOf_answers (hv.names_self hi)⟩
  index i v := hv.indexOf_answers
  membership v := hv.contains_iff
  invalid index text hwording := by
    refine ⟨fun hreports i hi hindex ↦ ?_, vertexAt_reports hwording⟩
    have hanswers := vertexAt_answers hindex (List.getElem?_eq_getElem hi)
    exact hanswers.not_reports ⟨{}, {}⟩ hreports
  unknown v text hshown := by
    have hreports := indexOf_reports (g := g) hshown
    refine ⟨reports_iff (fun h ↦ ?_) hreports, reports_iff (fun h ↦ ?_) fun h ↦ (hreports h).bind _,
      reports_iff (fun h ↦ ?_) fun h ↦ (hreports h).bind _⟩
    all_goals obtain ⟨i, hi⟩ := hv.contains_iff.mp h
    · exact ⟨i, hv.indexOf_answers hi⟩
    · exact ⟨_, hv.neighborCount_answers hi⟩
    · exact ⟨_, hv.neighbors_answers hi⟩
  unknownPair v w text hshown := by
    refine reports_iff (fun h ↦ ?_) fun h ↦ ?_
    · obtain ⟨hcv, hcw⟩ := Bool.and_eq_true_iff.mp h
      obtain ⟨i, hi⟩ := hv.contains_iff.mp hcv
      obtain ⟨j, hj⟩ := hv.contains_iff.mp hcw
      exact ⟨_, hv.isNeighbor_answers hi hj⟩
    · cases hcv : contains g v with
      | false =>
        rw [hcv] at hshown
        exact (indexOf_reports hshown hcv).bind _
      | true =>
        rw [hcv] at hshown h
        obtain ⟨i, hi⟩ := hv.contains_iff.mp hcv
        exact (hv.indexOf_answers hi).bind_reports ((indexOf_reports hshown h).bind _)
  unquotable := by
    refine ⟨fun index e hwording ↦ vertexAt_breaks hwording, fun v e hshown hcv ↦ ?_,
      fun v w e hshown hpair ↦ ?_⟩
    · have hbreaks := indexOf_breaks hshown hcv
      exact ⟨hbreaks, hbreaks.bind _, hbreaks.bind _⟩
    · cases hcv : contains g v with
      | false =>
        rw [hcv] at hshown
        exact (indexOf_breaks hshown hcv).bind _
      | true =>
        rw [hcv] at hshown hpair
        obtain ⟨i, hi⟩ := hv.contains_iff.mp hcv
        exact (hv.indexOf_answers hi).bind_breaks ((indexOf_breaks hshown hpair).bind _)
  adjacency i j v w hi hj := ⟨_, hv.isNeighbor_answers hi hj, hg.areNeighbors_iff⟩
  neighborhood i v hi := by
    have hplaces := forall₂_placesRelated p g.vertices i
    refine ⟨_, _, ?_, ?_, hplaces, pairwise_placesRelated p g.vertices i, fun j w hj ↦ ?_⟩
    · rw [← hg.neighborsAt_eq hi.lt]
      exact hv.neighbors_answers hi
    · rw [hplaces.length_eq, ← hg.countAt_eq hi.lt]
      exact hv.neighborCount_answers hi
    · rw [hv.any_valuesAt_iff hj, mem_placesRelated]
  table i hi j hj := by
    have hrow : g.rows[i]? =
        some ((List.range g.vertices.length).map (cellOf p g.vertices i)) := by
      rw [hg.rows_eq, List.getElem?_map, List.getElem?_range hi]
      rfl
    refine ⟨_, cellOf p g.vertices i j, hrow, ?_, cellOf_iff⟩
    rw [List.getElem?_map, List.getElem?_range hj]
    rfl
  text kind := by rw [shownAs, hg.pairCount_eq, hg.size_eq]

/-! ## Graphs that are built -/

theorem canBeVertices_eraseDups {xs : List Value} (hcomparable : ∀ a ∈ xs, Comparable a)
    (hhashable : ∀ a ∈ xs, a.changeable? = none) : CanBeVertices xs.eraseDups where
  distinct := distinct_eraseDups xs
  comparable a ha := hcomparable a ((eraseDups_sublist xs).subset ha)
  hashable a ha := hhashable a ((eraseDups_sublist xs).subset ha)

theorem CanBeVertices.build_ends {r : ValueRelation} (hv : CanBeVertices values)
    (hr : ∀ a ∈ values, ∀ b ∈ values, Call.Ends (r.holds a b) (· = p a b) fun _ ↦ False) :
    Call.Ends (Graph.build values r.holds) (Consistent p values) fun _ ↦ False := by
  have heq := hv.distinct.eraseDups_eq
  refine (Graph.build_ends (p := p) (by rwa [heq])).mono fun g hg ↦ ?_
  rw [heq] at hg
  obtain rfl := hg.2.vertices
  exact consistent_of_represents hg.2 hv

/-- Reading a collection answers the different elements that it has at that time. -/
theorem read_triple {vertices : Value} {xs : List Value}
    (hhashable : ∀ a ∈ xs, a.changeable? = none) :
    Call.Triple (fun w : World Caller ↦ (vertices.elements w.caller).1 = .ok xs)
      (Run.ask vertices.toSet) (fun ys _ ↦ ys = xs.eraseDups) fun _ _ ↦ False := by
  intro w hw
  have hdistinct : Value.distinct xs = .ok xs.eraseDups :=
    Value.distinct_eq fun a ha ↦ by rw [Value.beElement, hhashable a ha]
  cases hread : vertices.elements w.caller with
  | mk result caller =>
    rw [hread] at hw
    subst hw
    simp only [Run.ask, Call.zoom, Value.toSet, Call.bind_apply, hread, hdistinct]
    rfl

/-- What comes of building a graph of what a collection holds is what comes of building one of its
different elements. -/
theorem build_triple {vertices : Value} {r : ValueRelation} {xs : List Value}
    {post : ValueGraph → Prop} {fails : Failure → Prop}
    (hcollection : requireCollection "vertices" vertices = .ok vertices)
    (hhashable : ∀ a ∈ xs, a.changeable? = none)
    (hmade : Call.Ends (Graph.build xs.eraseDups r.holds) post fails) :
    Call.Triple (fun w ↦ (vertices.elements w.caller).1 = .ok xs)
      (build vertices (.function r)) (fun g _ ↦ post g) fun e _ ↦ fails e := by
  rw [build, hcollection]
  change Call.Triple _ (Run.ask vertices.toSet >>= fun ys ↦ Run.ask (Graph.build ys r.holds)) _ _
  have hread : Call.Triple (fun w : World Caller ↦ (vertices.elements w.caller).1 = .ok xs)
      (Run.ask vertices.toSet) (fun ys _ ↦ ys = xs.eraseDups) fun e _ ↦ fails e :=
    (read_triple hhashable).imp (fun _ hw ↦ hw) (fun _ _ hys ↦ hys) fun _ _ ↦ False.elim
  refine hread.bind fun ys w hys ↦ ?_
  subst hys
  exact Run.ends_ask hmade w trivial

/-- Building a graph of what a collection holds, with any relation that answers, makes one that is
consistent with that relation. -/
theorem build_consistent {vertices : Value} {r : ValueRelation} {xs : List Value}
    (hcollection : requireCollection "vertices" vertices = .ok vertices)
    (hcomparable : ∀ a ∈ xs, Comparable a) (hhashable : ∀ a ∈ xs, a.changeable? = none)
    (hr : ∀ a ∈ xs, ∀ b ∈ xs, Call.Ends (r.holds a b) (· = p a b) fun _ ↦ False) :
    Call.Triple (fun w ↦ (vertices.elements w.caller).1 = .ok xs)
      (build vertices (.function r)) (fun g _ ↦ Consistent p xs.eraseDups g) fun _ _ ↦ False := by
  have hsub := (eraseDups_sublist xs).subset
  have hvertices := canBeVertices_eraseDups hcomparable hhashable
  exact build_triple hcollection hhashable
    (hvertices.build_ends fun a ha b hb ↦ hr a (hsub ha) b (hsub hb))

/-! ## A sample graph -/

namespace Sample

/-- Vertices of several kinds, two of which are equal. -/
def mixed : List Value :=
  [.integer 1, .text "a", .truth true, .nothing, .tuple [.integer 2]]

/-- Every vertex is related to the text, and the text to none. -/
def toText : ValueRelation := fun _ b ↦ pure (.truth (b == .text "a"))

/-- A piece of equipment whose name is a number, so that it has no text. -/
def unnamed : Value :=
  .equipment (.integer 1) (.integer 5) [.text "head"] []

end Sample

theorem build_consistent_sample :
    requireCollection "vertices" (.list Sample.mixed) = .ok (.list Sample.mixed) ∧
      (∀ a ∈ Sample.mixed, Comparable a) ∧ (∀ a ∈ Sample.mixed, a.changeable? = none) ∧
      Call.Triple (fun w ↦ ((Value.list Sample.mixed).elements w.caller).1 = .ok Sample.mixed)
        (build (.list Sample.mixed) (.function Sample.toText))
        (fun g _ ↦ Consistent (fun _ b ↦ b == .text "a") Sample.mixed.eraseDups g)
        fun _ _ ↦ False := by
  have hcomparable : ∀ a ∈ Sample.mixed, Comparable a := by
    simp only [Sample.mixed, List.forall_mem_cons]
    refine ⟨.integer 1, .text "a", .truth true, .nothing, .tuple ?_, by simp⟩
    simpa using Comparable.integer 2
  have hhashable : ∀ a ∈ Sample.mixed, a.changeable? = none := by
    simp [Sample.mixed, Value.changeable?, Value.changeableIn?]
  exact ⟨rfl, hcomparable, hhashable,
    build_consistent rfl hcomparable hhashable fun _ _ _ _ ↦ .pure rfl⟩

/-- What is no index is not reported if it cannot be quoted, be it a whole number of too many digits or
something else that has no text. -/
theorem vertexAt_unquotable :
    let asked (index : Value) := ((do
      let g ← build (.list [.integer 1]) (.function Sample.toText)
      vertexAt g index : Run Caller Value) ⟨{}, {}⟩).1
    (asked (.integer Value.writtenBound) = .error .tooLongToWrite ∧
      Failure.tooLongToWrite.family ≠ .invalidIndex ∧ ¬ IsPlace (.integer Value.writtenBound) 0) ∧
    asked Sample.unnamed = .error (.unnamed .integer) ∧
      (Failure.unnamed .integer).family ≠ .invalidIndex ∧ ¬ IsPlace Sample.unnamed 0 := by
  obtain ⟨g, w, hbuild, hsize⟩ : ∃ g w,
      build (.list [.integer 1]) (.function Sample.toText) ⟨{}, {}⟩ = (.ok g, w) ∧ g.size = 1 :=
    ⟨_, _, rfl, rfl⟩
  have hasked {index : Value} {e : Failure} (hwording : index.wording = .error e)
      (hplace : ¬ IsPlace index 0) :
      ((do
        let g ← build (.list [.integer 1]) (.function Sample.toText)
        vertexAt g index : Run Caller Value) ⟨{}, {}⟩).1 = .error e := by
    have hplaces : ∀ i < g.size, ¬ IsPlace index i := by
      rw [hsize]
      intro i hi
      obtain rfl := Nat.lt_one_iff.mp hi
      exact hplace
    rw [Call.bind_apply, hbuild]
    exact congrArg Prod.fst (vertexAt_breaks hwording hplaces w)
  have hlarge : ¬ IsPlace (.integer Value.writtenBound) 0 := by
    rintro (h | h | h | h)
    · exact absurd (Value.integer.inj h) (by decide +kernel)
    all_goals cases h
  have hunwritable : (Value.integer Value.writtenBound).wording = .error .tooLongToWrite := by
    change Value.digits Value.writtenBound = _
    rw [Value.digits, Int.natAbs_natCast, if_neg (Nat.lt_irrefl _)]
  have hunnamed : ¬ IsPlace Sample.unnamed 0 := by
    rintro (h | h | h | h) <;> cases h
  exact ⟨⟨hasked hunwritable hlarge, by decide, hlarge⟩, hasked rfl hunnamed, by decide, hunnamed⟩

end Entry

end Loadout
