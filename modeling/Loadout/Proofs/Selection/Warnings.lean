import Loadout.Entry.Graph
import Loadout.Proofs.Graph.Decomposition
import Loadout.Proofs.Journal.Records
import Loadout.Proofs.Selection.ByComponent
import Loadout.Proofs.Selection.Caller
import Loadout.Proofs.Selection.Tracing

/-!
# Warnings about large components

If every question is answered, a selection from a graph warns of each component that is to be
searched and exceeds the limit, once and in order, and of no other: `sizeWarnings` are all the
warnings that it records, also in a disabled journal.  Wherever a run stops, and whatever it is
answered, a large component has been warned of by the time that one of its vertices is weighed.
Both are in `ByComponent.findInGraph_warns`.

A warning names the limit, which must not have too many digits for that.  And in a journal that is in
use the vertices are named before anything else, so a run comes to no warning if one of them has no
text, `ByComponent.findInGraph_unwarned`.
-/

namespace Loadout

open Call

section Warnings

variable {τ α β ω φ : Type} {labels : Labels τ α φ} {conflict : α → α → Call τ Bool}
variable {weighing : Weighing τ α ω φ} {values : List α}

/-! ## Callers -/

/-- A caller who answers every question about some values, if not always in the same way. -/
structure Responsive (conflict : α → α → Call τ Bool) (weighing : Weighing τ α ω φ)
    (values : List α) : Prop where
  related : ∀ a ∈ values, ∀ b ∈ values, Ends (conflict a b) (fun _ ↦ True) fun _ ↦ False
  number : ∀ a ∈ values, Ends (weighing.number a) (fun _ ↦ True) fun _ ↦ False
  compare : ∀ a ∈ values, ∀ b ∈ values, Ends (weighing.compare a b) (fun _ ↦ True) fun _ ↦ False

theorem Responsive.of_subset {others : List α} (h : Responsive conflict weighing values)
    (hsub : others ⊆ values) : Responsive conflict weighing others where
  related a ha b hb := h.related a (hsub ha) b (hsub hb)
  number a ha := h.number a (hsub ha)
  compare a ha b hb := h.compare a (hsub ha) b (hsub hb)

/-- A caller who notices when the weight of a value is asked for, and at no other question. -/
structure Noticing (asked : τ → Prop) (labels : Labels τ α φ) (conflict : α → α → Call τ Bool)
    (weighing : Weighing τ α ω φ) (a : α) : Prop where
  label : ∀ b, Preserves (¬ asked ·) (labels.vertex b)
  related : ∀ b c, Preserves (¬ asked ·) (conflict b c)
  weigh : ∀ b, b ≠ a → Preserves (¬ asked ·) (weighing.weigh b)

theorem Call.Harmless.ends {call : Call τ α} {post : α → Prop} (h : call.Harmless post) :
    Ends call post fun _ ↦ False := by
  intro s _
  obtain ⟨a, hs, ha⟩ := h s
  rw [hs]
  exact ha

namespace Graph

variable {g : Graph τ α}

/-- The components of a graph that was built hold its vertices, and those are the different values. -/
theorem build_flatten_components [BEq α] {adjacent : α → α → Call τ Bool} {s s' : τ}
    (h : Graph.build values adjacent s = (.ok g, s')) :
    g.vertices = values.eraseDups ∧ g.components.flatten.Perm g.vertices := by
  have hg := build_square values adjacent s trivial
  rw [h] at hg
  obtain ⟨hvertices, -, hsquare⟩ := hg
  exact ⟨hvertices, (decomposed_componentIndices hsquare).flatten_valuesAt hsquare⟩

variable (hg : g.components.flatten.Perm g.vertices)

include hg

/-- The vertices of a component are vertices of the graph, each as often as it is one. -/
theorem subperm_vertices {c : List α} (hc : c ∈ g.components) : c.Subperm g.vertices :=
  (List.sublist_flatten_of_mem hc).subperm.trans hg.subperm

/-- A vertex is in one component only. -/
theorem component_eq (hvertices : g.vertices.Nodup) {i j : Nat} {c d : List α}
    (hi : g.components[i]? = some c) (hj : g.components[j]? = some d) {a : α} (hc : a ∈ c)
    (hd : a ∈ d) : i = j := by
  have hdisjoint := (List.nodup_flatten.mp (hg.nodup_iff.mpr hvertices)).2
  obtain ⟨_, rfl⟩ := List.getElem?_eq_some_iff.mp hi
  obtain ⟨_, rfl⟩ := List.getElem?_eq_some_iff.mp hj
  by_contra hne
  rcases Nat.lt_or_gt_of_ne hne with hlt | hlt
  · exact List.pairwise_iff_getElem.mp hdisjoint i j _ _ hlt hc hd
  · exact List.pairwise_iff_getElem.mp hdisjoint j i _ _ hlt hd hc

end Graph

/-! ## What is recorded -/

section Recorded

variable [BEq α] [Zero φ] [Add φ] [LT φ] [DecidableLT φ] {vertices : List α}
variable {disabled : Bool} {records : List Record} {fails : Failure → World τ → Prop}

/-- An exhaustive search records no warning. -/
theorem Exhaustive.find_recorded (h : Responsive conflict weighing vertices)
    (htexts : disabled = true ∨ labels.Printable vertices) :
    Triple (Recorded .warning disabled records) (find labels vertices conflict weighing)
      (fun _ ↦ Recorded .warning disabled records) fails := by
  have hvalues := (eraseDups_sublist vertices).subset
  have hdifferent := h.of_subset hvalues
  by_cases hsize : vertices.eraseDups.length < 2
  · simp only [find, hsize, if_true]
    exact .pure fun _ hw ↦ hw
  simp only [find, hsize, if_false]
  refine (Recorded.ask_total (.mapM hdifferent.number)).bind fun weights ↦ .of_fact fun _ ↦ ?_
  refine (Recorded.ask_total (adjacencyTable_answers hdifferent.related)).bind fun table ↦
    .of_fact fun _ ↦ ?_
  refine (Triple.forM fun c _ ↦ Recorded.write (.note .debug _) (by decide)).bind fun _ ↦ ?_
  refine (Recorded.journalled fun hused ↦ ?_).bind fun _ ↦ .pure fun _ hw ↦ hw
  have hprintable := htexts.resolve_left (by simp [hused])
  have hselected := List.Subset.trans
    (filterMap_getElem?_subset vertices.eraseDups (searchAll table.cell weights).best.members)
    hvalues
  have htext := (hprintable.of_subset hselected).selection.ends
  exact (Recorded.ask_total htext).bind fun text ↦ .of_fact fun _ ↦
    Recorded.write (.result _ _) (by decide)

namespace ByComponent

/-- The warning about a component with a number, if it is to be searched and exceeds the limit. -/
def sizeWarningsOf (m : Int) (item : List α × Nat) : List Record :=
  if 3 ≤ item.1.length ∧ m < item.1.length then
    [⟨.warning, sizeWarning (Number.integerText m) item.2 item.1.length⟩]
  else []

/-- The warnings about components, in order. -/
def sizeWarnings (m : Int) (components : List (List α)) : List Record :=
  components.zipIdx.flatMap (sizeWarningsOf m)

variable {m : Int}

omit [BEq α] in
theorem mem_sizeWarnings {components : List (List α)} {r : Record} :
    r ∈ sizeWarnings m components ↔ ∃ k c, components[k]? = some c ∧ 3 ≤ c.length ∧
      m < c.length ∧ r = ⟨.warning, sizeWarning (Number.integerText m) k c.length⟩ := by
  simp only [sizeWarnings, List.mem_flatMap, Prod.exists, List.mem_zipIdx_iff_getElem?,
    sizeWarningsOf]
  constructor
  · rintro ⟨c, k, hk, hr⟩
    split at hr
    next hlarge => exact ⟨k, c, hk, hlarge.1, hlarge.2, List.mem_singleton.mp hr⟩
    · exact absurd hr List.not_mem_nil
  · rintro ⟨k, c, hk, hlength, hlarge, rfl⟩
    exact ⟨c, k, hk, by rw [if_pos ⟨hlength, hlarge⟩]; exact List.mem_singleton_self _⟩

/-- A selection from a component records the warning about it, if there is one. -/
theorem select_recorded (hm : m.natAbs < Value.writtenBound) (item : List α × Nat)
    (h : Responsive conflict weighing item.1)
    (htexts : disabled = true ∨ labels.Printable item.1) :
    Triple (Recorded .warning disabled records)
      (select labels (.ofInt m) conflict weighing item.2 item.1)
      (fun _ ↦ Recorded .warning disabled (records ++ sizeWarningsOf m item)) fails := by
  obtain ⟨component, number⟩ := item
  have hnone (hsize : component.length < 3) :
      records ++ sizeWarningsOf m (component, number) = records := by
    rw [sizeWarningsOf, if_neg (by simp only; omega), List.append_nil]
  have hnote (size : Nat) (strategy : Strategy) (records : List Record) :
      Triple (Recorded .warning disabled records)
        (Run.write (.component number size strategy) : Run τ Unit)
        (fun _ ↦ Recorded .warning disabled records) fails :=
    Recorded.write (.note .info _) (by decide)
  match component with
  | [] =>
    rw [hnone (by simp)]
    exact .pure fun _ hw ↦ hw
  | [v] =>
    rw [hnone (by simp)]
    exact (hnote _ _ _).bind fun _ ↦ .pure fun _ hw ↦ hw
  | [v, w] =>
    rw [hnone (by simp), select_pair]
    refine (hnote _ _ _).bind fun _ ↦ ?_
    exact (Recorded.ask_total (h.compare v (by simp) w (by simp))).bind fun first ↦
      .of_fact fun _ ↦ .pure fun _ hw ↦ hw
  | u :: v :: w :: rest =>
    have hsearch (records : List Record) : Triple (Recorded .warning disabled records)
        (Exhaustive.find labels (u :: v :: w :: rest) conflict weighing)
        (fun _ ↦ Recorded .warning disabled records) fails := Exhaustive.find_recorded h htexts
    simp only [select, SizeLimit.exceededBy_ofInt hm]
    refine (Recorded.ofExcept_ok _).bind fun text ↦ .of_fact ?_
    rintro rfl
    by_cases hlarge : m < (u :: v :: w :: rest).length
    · rw [if_pos hlarge, sizeWarningsOf, if_pos ⟨by simp, hlarge⟩]
      exact (Recorded.emit _).bind fun _ ↦ (hnote _ _ _).bind fun _ ↦ hsearch _
    · rw [if_neg hlarge, sizeWarningsOf, if_neg fun h ↦ hlarge h.2, List.append_nil]
      exact (hnote _ _ _).bind fun _ ↦ hsearch _

/-- A selection from a graph records the warnings about its components, even if the text of what is
selected cannot be made. -/
theorem findInGraph_recorded {g : Graph τ α} (hm : m.natAbs < Value.writtenBound)
    (hg : g.components.flatten.Perm g.vertices)
    (h : Responsive g.adjacent weighing g.vertices)
    (htexts : disabled = true ∨ labels.Printable g.vertices) :
    Triple (Recorded .warning disabled records) (findInGraph labels (.ofInt m) g weighing)
      (fun _ ↦ Recorded .warning disabled (records ++ sizeWarnings m g.components))
      (fun _ ↦ Recorded .warning disabled (records ++ sizeWarnings m g.components)) := by
  have hsub : ∀ item ∈ g.components.zipIdx, item.1 ⊆ g.vertices := by
    intro item hitem
    have hc : item.1 ∈ g.components := (List.mem_zipIdx' hitem).2 ▸ List.getElem_mem _
    exact (Graph.subperm_vertices hg hc).subset
  by_cases hsize : g.size < 2
  · have hnone : sizeWarnings m g.components = [] := by
      refine List.eq_nil_iff_forall_not_mem.mpr fun r hr ↦ ?_
      obtain ⟨k, c, hk, hlength, -, -⟩ := mem_sizeWarnings.mp hr
      have hle := (Graph.subperm_vertices hg (List.mem_of_getElem? hk)).length_le
      rw [Graph.size] at hsize
      omega
    simp only [findInGraph, hsize, if_true, hnone, List.append_nil]
    exact .pure fun _ hw ↦ hw
  simp only [findInGraph, hsize, if_false]
  refine Triple.bind (Recorded.write (.openSection _) (by decide)) fun _ ↦ ?_
  refine Triple.bind (Recorded.journalled fun hused ↦ ?_) fun _ ↦ ?_
  · have hprintable := htexts.resolve_left (by simp [hused])
    exact (Recorded.ask_total hprintable.names.ends).bind fun names ↦ .of_fact fun _ ↦
      Recorded.write (.matrix _ _ _) (by decide)
  have hselections : Triple (Recorded .warning disabled records)
      (g.components.zipIdx.mapM fun item ↦
        select labels (.ofInt m) g.adjacent weighing item.2 item.1)
      (fun _ ↦ Recorded .warning disabled (records ++ sizeWarnings m g.components))
      (fun _ ↦ Recorded .warning disabled (records ++ sizeWarnings m g.components)) :=
    Recorded.mapM fun item hitem records ↦ select_recorded hm item (h.of_subset (hsub item hitem))
      (htexts.imp_right fun hprintable ↦ hprintable.of_subset (hsub item hitem))
  refine hselections.bind fun selections ↦ ?_
  refine Triple.bind (Recorded.ask _) fun text ↦ ?_
  refine Triple.bind (Recorded.write (.result _ _) (by decide)) fun _ ↦ ?_
  have hclose : Journal.Adds .info .closeSection := .closeSection
  exact (Recorded.write hclose (by decide)).bind fun _ ↦ .pure fun _ hw ↦ hw

end ByComponent

end Recorded

/-! ## What has been recorded when -/

/-- A message is among the records unless its cause is yet to come. -/
def Forewarned (asked : τ → Prop) (r : Record) (w : World τ) : Prop :=
  w.journal.admits .warning = true ∧ (¬ asked w.caller ∨ r ∈ w.journal.records)

section Order

variable [BEq α] [Zero φ] [Add φ] [LT φ] [DecidableLT φ] {property : Journal → Prop}

theorem Exhaustive.find_lasting (h : Lasting property) (vertices : List α) :
    Preserves (property ∘ World.journal) (find labels vertices conflict weighing) := by
  by_cases hsize : vertices.eraseDups.length < 2
  · simp only [find, hsize, if_true]
    exact .pure _
  simp only [find, hsize, if_false]
  refine (Run.preserves_asking _).bind fun weights ↦ ?_
  refine (Run.preserves_asking _).bind fun table ↦ ?_
  refine (Preserves.forM fun c _ ↦ h.write (.note .debug _)).bind fun _ ↦ ?_
  refine (Run.preserves_journalled ?_).bind fun _ ↦ .pure _
  exact (Run.preserves_asking _).bind fun text ↦ h.write (.result _ _)

namespace ByComponent

variable {m : Int} {asked : τ → Prop} {r : Record}

theorem select_lasting (h : Lasting property) (limit : SizeLimit) (number : Nat)
    (component : List α) :
    Preserves (property ∘ World.journal)
      (select labels limit conflict weighing number component) := by
  have hnote (size : Nat) (strategy : Strategy) : Preserves (property ∘ World.journal)
      (Run.write (.component number size strategy) : Run τ Unit) := h.write (.note .info _)
  match component with
  | [] => exact .pure _
  | [v] => exact (hnote _ _).bind fun _ ↦ .pure _
  | [v, w] =>
    rw [select_pair]
    exact (hnote _ _).bind fun _ ↦ (Run.preserves_asking _).bind fun first ↦ .pure _
  | u :: v :: w :: rest =>
    simp only [select]
    refine Preserves.bind (.ofExcept _) fun exceeded ↦ ?_
    split
    · refine (h.write (.emit .warning _)).bind fun _ ↦ ?_
      exact (hnote _ _).bind fun _ ↦ Exhaustive.find_lasting h _
    · exact (hnote _ _).bind fun _ ↦ Exhaustive.find_lasting h _

/-- Nothing changes as long as the value is not weighed. -/
theorem preserves_forewarned {act : Run τ β} (hcaller : Preserves ((¬ asked ·) ∘ World.caller) act)
    (hjournal : ∀ {property}, Lasting property → Preserves (property ∘ World.journal) act) :
    Preserves (Forewarned asked r) act :=
  (hjournal (lasting_admits .warning)).and (hcaller.or (hjournal (lasting_mem r)))

theorem forewarned_write {severity : Severity} {f : Journal → Journal}
    (hf : Journal.Adds severity f) : Preserves (Forewarned asked r) (Run.write f : Run τ Unit) :=
  preserves_forewarned (Run.preserves_write f) fun h ↦ h.write hf

theorem forewarned_ask {call : Call τ β} (h : Preserves (¬ asked ·) call) :
    Preserves (Forewarned asked r) (Run.ask call) :=
  preserves_forewarned (Run.preserves_ask h) fun _ ↦ Run.preserves_asking call

/-- Once the message has been sent, it does not matter what follows. -/
theorem forewarned_emit {message : String} {act : Run τ β}
    (hjournal : ∀ {property}, Lasting property → Preserves (property ∘ World.journal) act) :
    Preserves (Forewarned asked ⟨.warning, message⟩)
      (Run.write (.emit .warning message) >>= fun _ ↦ act) := by
  have hlasting := (lasting_admits .warning).and (lasting_mem ⟨.warning, message⟩)
  have hsent : Triple (Forewarned asked ⟨.warning, message⟩)
      (Run.write (.emit .warning message) : Run τ Unit)
      (fun _ ↦ (fun j : Journal ↦ j.admits .warning = true ∧ ⟨.warning, message⟩ ∈ j.records) ∘
        World.journal) (fun _ ↦ Forewarned asked ⟨.warning, message⟩) := by
    rintro w ⟨hadmits, -⟩
    refine ⟨((Journal.Adds.emit _ _).admits_eq _).trans hadmits, ?_⟩
    simp [Journal.emit, hadmits]
  exact hsent.bind fun _ ↦ (hjournal hlasting).imp (fun _ hw ↦ hw)
    (fun _ _ hw ↦ ⟨hw.1, .inr hw.2⟩) fun _ _ hw ↦ ⟨hw.1, .inr hw.2⟩

/-- A component that is to be searched and exceeds the limit is warned of first. -/
theorem select_forewarned {number : Nat} {component : List α} (hlength : 3 ≤ component.length)
    (hlarge : m < component.length) :
    Preserves
      (Forewarned asked ⟨.warning, sizeWarning (Number.integerText m) number component.length⟩)
      (select labels (.ofInt m) conflict weighing number component) := by
  match component with
  | u :: v :: w :: rest =>
    simp only [select]
    have htext : Ends
        (Run.ofExcept ((SizeLimit.ofInt m).exceededBy (u :: v :: w :: rest).length) :
          Run τ (Option String))
        (· = some (Number.integerText m)) fun _ ↦ True := by
      refine Run.ends_ofExcept (fun text h ↦ ?_) fun _ _ ↦ trivial
      rw [SizeLimit.eq_of_exceededBy_ofInt h, if_pos hlarge]
    refine Preserves.bind_of (.ofExcept _) htext ?_
    rintro _ rfl
    refine forewarned_emit fun hlasting ↦ ?_
    exact (hlasting.write (.note .info _)).bind fun _ ↦ Exhaustive.find_lasting hlasting _

variable {g : Graph τ α}

/-- Before a vertex of a large component is weighed, the component is warned of. -/
theorem findInGraph_forewarned (hvertices : g.vertices.Nodup)
    (hg : g.components.flatten.Perm g.vertices) {a : α}
    (h : Noticing asked labels g.adjacent weighing a) {k : Nat} {c : List α}
    (hk : g.components[k]? = some c) (ha : a ∈ c) (hlength : 3 ≤ c.length)
    (hlarge : m < c.length) :
    Preserves (Forewarned asked ⟨.warning, sizeWarning (Number.integerText m) k c.length⟩)
      (findInGraph labels (.ofInt m) g weighing) := by
  by_cases hsize : g.size < 2
  · simp only [findInGraph, hsize, if_true]
    exact .pure _
  simp only [findInGraph, hsize, if_false]
  have htext (selected : List α) : Preserves (¬ asked ·) (labels.selection selected) :=
    Labels.preserves_selection h.label selected
  refine (forewarned_write (.openSection _)).bind fun _ ↦ ?_
  refine (Run.preserves_journalled ?_).bind fun _ ↦ ?_
  · exact (forewarned_ask (.mapM fun b _ ↦ h.label b)).bind fun names ↦
      forewarned_write (.matrix _ _ _)
  refine (Preserves.mapM fun item hitem ↦ ?_).bind fun selections ↦ ?_
  · obtain ⟨c', k'⟩ := item
    have hk' := List.mem_zipIdx_iff_getElem?.mp hitem
    by_cases ha' : a ∈ c'
    · obtain rfl := Graph.component_eq hg hvertices hk' hk ha' ha
      obtain rfl : c' = c := Option.some.inj (hk'.symm.trans hk)
      exact select_forewarned hlength hlarge
    · refine preserves_forewarned ?_ fun hlasting ↦ select_lasting hlasting _ _ _
      exact select_preserves h.label h.related _ fun b hb ↦ h.weigh b fun heq ↦ ha' (heq ▸ hb)
  · refine (forewarned_ask (htext _)).bind fun text ↦ ?_
    refine (forewarned_write (.result _ _)).bind fun _ ↦ ?_
    have hclose : Journal.Adds .info .closeSection := .closeSection
    exact (forewarned_write hclose).bind fun _ ↦ .pure _

/-- A run that is answered warns of the large components, in order, and of nothing else, provided
that the limit can be printed, and the vertices if these are to be written; and whatever a run is
answered and wherever it stops, a large component has been warned of by the time that one of its
vertices is weighed. -/
theorem findInGraph_warns {adjacent : α → α → Call τ Bool} {s s' : τ}
    (hbuild : Graph.build values adjacent s = (.ok g, s'))
    (hself : ∀ a ∈ g.vertices, (a == a) = true) (m : Int) :
    (m.natAbs < Value.writtenBound → ∀ disabled records,
      Responsive g.adjacent weighing g.vertices → (disabled = true ∨ labels.Printable g.vertices) →
      Triple (Recorded .warning disabled records) (findInGraph labels (.ofInt m) g weighing)
        (fun _ ↦ Recorded .warning disabled (records ++ sizeWarnings m g.components))
        (fun _ ↦ Recorded .warning disabled (records ++ sizeWarnings m g.components))) ∧
    ∀ k c a asked, g.components[k]? = some c → 3 ≤ c.length → m < c.length → a ∈ c →
      Noticing asked labels g.adjacent weighing a →
      ∀ w, w.journal.admits .warning = true → ¬ asked w.caller →
        asked (findInGraph labels (.ofInt m) g weighing w).2.caller →
          ⟨.warning, sizeWarning (Number.integerText m) k c.length⟩ ∈
            (findInGraph labels (.ofInt m) g weighing w).2.journal.records := by
  obtain ⟨hdifferent, hg⟩ := Graph.build_flatten_components hbuild
  constructor
  · intro hm disabled records hresponsive htexts
    exact findInGraph_recorded hm hg hresponsive htexts
  · intro k c a asked hk hlength hlarge ha hnoticing w hadmits hbefore hasked
    have hdistinct : Distinct g.vertices := hdifferent ▸ distinct_eraseDups values
    have hvertices : g.vertices.Nodup := hdistinct.nodup_of_self hself
    have hrun := findInGraph_forewarned hvertices hg hnoticing hk ha hlength hlarge
    have hafter := Preserves.iff_snd.mp hrun w ⟨hadmits, .inl hbefore⟩
    exact hafter.2.resolve_left (not_not_intro hasked)

end ByComponent

end Order

end Warnings

namespace ByComponent

namespace Sample

/-- A chain of three vertices, and one without conflicts. -/
def chain : Graph Bool Nat where
  vertices := [1, 2, 3, 5]
  adjacent a b := pure (a + 1 == b || b + 1 == a)
  table := #[#[false, true, false, false], #[true, false, true, false],
    #[false, true, false, false], #[false, false, false, false]]
  counts := #[1, 2, 1, 0]

theorem components_chain : chain.components = [[1, 2, 3], [5]] := by
  have hzero : chain.table.columns 0 = [1] := rfl
  have hone : chain.table.columns 1 = [0, 2] := rfl
  have htwo : chain.table.columns 2 = [1] := rfl
  have hthree : chain.table.columns 3 = [] := rfl
  have hindices : List.range chain.size = [0, 1, 2, 3] := rfl
  have hnone : Array.replicate chain.size false = #[false, false, false, false] := rfl
  rw [Graph.components, Graph.componentIndices, Table.components, hindices, hnone]
  simp [Table.componentsFrom, Table.search, hzero, hone, htwo, hthree, List.mergeSort_of_pairwise]
  exact ⟨rfl, rfl⟩

def chainLabels : Labels Bool Nat Int where
  vertex a := pure (toString a)
  weight n := toString n

/-- A caller who notes that the weight of a vertex has been asked for. -/
def weighing : Weighing Bool Nat Int Int where
  weigh v := fun asked ↦ (.ok v, asked || v == 2)
  atLeast x y := .ok (y ≤ x)
  measure := .ok

/-- The warning about the chain. -/
def warning : Record :=
  ⟨.warning, "Component 0 has 3 vertices, above the configured maximum of -1; the exhaustive search"
    ++ " may take a long time"⟩

theorem responsive : Responsive chain.adjacent weighing chain.vertices where
  related _ _ _ _ := .pure trivial
  number _ _ := fun _ _ ↦ trivial
  compare _ _ _ _ := fun _ _ ↦ trivial

theorem noticing : Noticing (· = true) chainLabels chain.adjacent weighing 2 where
  label _ := .pure _
  related _ _ := .pure _
  weigh b hb := fun asked hasked ↦ by
    change ¬ (asked || b == 2) = true
    simpa [hb] using hasked

end Sample

theorem findInGraph_warns_sample :
    Triple (Recorded .warning true [])
        (findInGraph Sample.chainLabels (.ofInt (-1)) Sample.chain Sample.weighing)
        (fun _ ↦ Recorded .warning true [Sample.warning])
        (fun _ ↦ Recorded .warning true [Sample.warning]) ∧
      Sample.warning ∈ (findInGraph Sample.chainLabels (.ofInt (-1)) Sample.chain Sample.weighing
        ⟨{}, false⟩).2.journal.records := by
  have hbuild : Graph.build [1, 2, 1, 3, 5] Sample.chain.adjacent false = (.ok Sample.chain, false) :=
    rfl
  have h := @findInGraph_warns _ _ _ _ Sample.chainLabels Sample.weighing _ _ _ _ _ _ _ _ _ _ hbuild
    (by decide) (-1)
  rw [Sample.components_chain] at h
  have hasked : (findInGraph Sample.chainLabels (.ofInt (-1)) Sample.chain Sample.weighing
      ⟨{}, false⟩).2.caller = true := by
    rw [findInGraph, Sample.components_chain,
      SizeLimit.ofInt_eq_of_writable (by decide +kernel)]
    rfl
  refine ⟨h.1 (by decide +kernel) true [] Sample.responsive (.inl rfl), ?_⟩
  exact h.2 0 [1, 2, 3] 2 (· = true) rfl (by decide) (by decide) (by decide) Sample.noticing
    ⟨{}, false⟩ (by decide) (by decide) hasked

namespace Sample

/-- Three pieces of equipment whose names are numbers, so that they have no texts. -/
def unnamed : List Value :=
  [1, 2, 3].map fun i ↦ .equipment (.integer i) (.integer 5) [.text "head"] []

def always : ValueRelation := fun _ _ ↦ pure (.truth true)

/-- The graph in which all of them are in conflict. -/
def rivals : Entry.ValueGraph where
  vertices := unnamed
  adjacent := always.holds
  table := #[#[false, true, true], #[true, false, true], #[true, true, false]]
  counts := #[2, 2, 2]

theorem components_rivals : Graph.components rivals = [unnamed] :=
  congrArg (List.map (Graph.verticesAt rivals)) Table.Sample.components_triangle

/-- A world with a journal that is in use. -/
def tracing : World Caller :=
  ⟨{ disabling := .truth false }, {}⟩

end Sample

/-- There is no warning of a large component if its vertices cannot be named, nor if the limit has too
many digits to be written. -/
theorem findInGraph_unwarned :
    (Entry.build (.list Sample.unnamed) (.function Sample.always) Sample.tracing =
        (.ok Sample.rivals, Sample.tracing) ∧
      sizeWarnings 0 Sample.rivals.components =
        [⟨.warning, "Component 0 has 3 vertices, above the configured maximum of 0; the exhaustive "
          ++ "search may take a long time"⟩] ∧
      Sample.tracing.journal.admits .warning = true ∧
      (Entry.findInGraph Sample.rivals (.function fun _ ↦ pure (.integer 1))
        { maxComponentSize := .integer 0 } Sample.tracing).2.journal.recordsAt .warning = []) ∧
    sizeWarnings (-Value.writtenBound) Sample.rivals.components ≠ [] ∧
      ({} : Journal).admits .warning = true ∧
      Entry.findInGraph Sample.rivals (.function fun _ ↦ pure (.integer 1))
        { maxComponentSize := .integer (-Value.writtenBound) } ⟨{}, {}⟩ =
        (.error .tooLongToWrite, ⟨{}, {}⟩) := by
  have hunwritable : SizeLimit.ofInt (-Value.writtenBound) = ⟨fun _ ↦ .error .tooLongToWrite⟩ :=
    SizeLimit.ofInt_eq_of_unwritable (by decide +kernel) (by decide +kernel)
  refine ⟨⟨by with_unfolding_all rfl, ?_, rfl, rfl⟩, ?_, rfl, ?_⟩
  · rw [Sample.components_rivals]
    rfl
  · rw [Sample.components_rivals]
    exact List.ne_nil_of_mem (mem_sizeWarnings.mpr
      ⟨0, Sample.unnamed, rfl, by decide, by decide +kernel, rfl⟩)
  · simp only [Entry.findInGraph, Settings.sizeLimit, SizeLimit.ofValue_integer, hunwritable,
      findInGraph, Sample.components_rivals]
    rfl

end ByComponent

end Loadout
