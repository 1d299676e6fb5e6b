import Loadout.Proofs.Graph.Decomposition
import Loadout.Proofs.Graph.Questions
import Loadout.Proofs.Selection.Caller
import Loadout.Proofs.Selection.Tracing

/-!
# The questions of a selection

What the selection by components asks its caller is known beforehand, question by question, up to
the first one that fails: first whether each vertex conflicts with each other one, and then, for one
component after the other, what `questionsOf` says.  If the answers depend on nothing but the
questions, a record that the caller keeps shows exactly that, `ByComponent.find_asks`.
-/

namespace Loadout

open Run

variable {τ α ω φ ι β : Type}

/-! ## Callers who keep a record -/

/-- What a caller answers, or how the caller fails. -/
structure Replies (α ω : Type) where
  conflict : α → α → Except Failure Bool
  weight : α → Except Failure ω

namespace Replies

/-- Whether the caller says that two values are in conflict. -/
def related (r : Replies α ω) (a b : α) : Bool :=
  match r.conflict a b with
  | .ok b => b
  | .error _ => false

def fault (r : Replies α ω) : Question α → Option Failure
  | .conflict a b => failureOf (r.conflict a b)
  | .weight a => failureOf (r.weight a)

end Replies

/-- A caller who always gives the same reply to a question, weights that are numbers, and who adds
every question to a record. -/
structure Interview (record : τ → List (Question α)) (conflict : α → α → Call τ Bool)
    (weighing : Weighing τ α ω φ) (replies : Replies α ω) : Prop where
  conflict_eq : ∀ a b s, (conflict a b s).1 = replies.conflict a b
  conflict_noted : ∀ a b s, record (conflict a b s).2 = record s ++ [.conflict a b]
  weight_eq : ∀ a s, (weighing.weigh a s).1 = replies.weight a
  weight_noted : ∀ a s, record (weighing.weigh a s).2 = record s ++ [.weight a]
  measured : ∀ a x, replies.weight a = .ok x → ∃ y, weighing.measure x = .ok y
  compared : ∀ a b x y, replies.weight a = .ok x → replies.weight b = .ok y →
    ∃ c, weighing.atLeast x y = .ok c

/-- Of some questions exactly those up to the first that fails have been asked, and what came of
them is this failure. -/
def CutShort (fault : ι → Option Failure) (questions asked : List ι) (result : Except Failure β) :
    Prop :=
  (asked = questions ∧ ∀ q ∈ questions, fault q = none) ∨
    ∃ kept q e, StopsAt fault questions kept q e ∧ asked = kept ++ [q] ∧ result = .error e

theorem CutShort.begins {fault : ι → Option Failure} {questions asked : List ι}
    {result : Except Failure β} (h : CutShort fault questions asked result) :
    asked <+: questions := by
  rcases h with ⟨rfl, -⟩ | ⟨kept, q, e, hstop, rfl, -⟩
  · exact List.prefix_rfl
  · exact hstop.begins

/-- What a record shows after a run, if it is made of the traces that the run leaves. -/
theorem Agenda.Traces.recorded {fault : ι → Option Failure} {record : τ → List ι} {todo : List ι}
    {kept : World τ → Prop} {answers : Prop} {act : Run τ β} {j : Journal} {s : τ}
    (h : ((Agenda.recording fault record (record s)).within World.caller kept).Traces answers act []
      todo) (hkept : kept ⟨j, s⟩) :
    ∃ asked, record (act.outcome j s).2 = record s ++ asked ∧
      CutShort fault todo asked (act.outcome j s).1 ∧
      (answers → (∀ q ∈ asked, fault q = none) → ∃ b, (act.outcome j s).1 = .ok b) := by
  rcases h ⟨j, s⟩ ⟨hkept, (List.append_nil (record s)).symm⟩ with
    ⟨hfine, hrecord, hanswers⟩ | ⟨before, q, e, hstop, herror, hrecord⟩
  · exact ⟨todo, hrecord, .inl ⟨rfl, hfine⟩, fun h _ ↦ hanswers h⟩
  · refine ⟨before ++ [q], hrecord, .inr ⟨before, q, e, hstop, rfl, herror⟩, fun _ hfine ↦ ?_⟩
    have hq := hfine q (by simp)
    rw [show fault q = some e from hstop.fault_eq] at hq
    exact nomatch hq

/-- Each of some values is weighed once. -/
theorem Weighing.performs_numbers {weighing : Weighing τ α ω φ} {weight : α → Except Failure ω}
    {fault : ι → Option Failure} {record : τ → List ι} {before done : List ι} {noted : α → ι}
    (hresult : ∀ a s, (weighing.weigh a s).1 = weight a)
    (hrecord : ∀ a s, record (weighing.weigh a s).2 = record s ++ [noted a])
    (hfault : ∀ a, fault (noted a) = failureOf (weight a))
    (hmeasured : ∀ a x, weight a = .ok x → ∃ y, weighing.measure x = .ok y) (values : List α) :
    (Agenda.recording fault record before).Performs (values.mapM weighing.number) done
      (values.map noted) (fun _ ↦ True) := by
  have hnumber : ∀ a done, (Agenda.recording fault record before).Performs (weighing.number a) done
      [noted a] (fun _ ↦ True) := by
    intro a done
    refine (Agenda.performs_recorded (hresult a) (hrecord a) (hfault a)).bind_nothing fun x hx ↦ ?_
    obtain ⟨y, hy⟩ := hmeasured a x hx
    rw [hy]
    exact .pure trivial
  rw [← List.flatMap_pure_eq_map]
  exact (Agenda.Performs.mapM fun a _ done ↦ hnumber a done).mono fun _ _ ↦ trivial

/-! ## Agendas of runs -/

/-- An agenda of the caller during a run in which no text is missing: none is asked for, or all can
be made. -/
def Agenda.inRun (A : Agenda τ ι) (labels : Labels τ α φ) (values : List α) : Agenda (World τ) ι :=
  A.within World.caller fun w ↦ w.journal.disabled = true ∨ labels.Printable values

namespace Run

variable {A : Agenda τ ι} {labels : Labels τ α φ} {values : List α} {done todo : List ι}

theorem performs_ask {call : Call τ β} {post : β → Prop} (h : A.Performs call done todo post) :
    (A.inRun labels values).Performs (ask call) done todo post :=
  h.zoom (fun _ ↦ rfl) (fun _ _ ↦ rfl) fun _ _ hw ↦ hw

theorem performs_write {f : Journal → Journal}
    (hf : ∀ t, Call.Preserves (Muted t) (write f : Run τ Unit)) :
    (A.inRun labels values).Performs (write f) done [] (fun _ ↦ True) := by
  refine .aside fun w hw ↦ ⟨(), { w with journal := f w.journal }, rfl, trivial, ?_, rfl⟩
  rcases hw with hdisabled | hprintable
  · exact .inl (hf _ w ⟨hdisabled, rfl⟩).1
  · exact .inr hprintable

theorem performs_ofExcept {result : Except Failure β} {b : β} (h : result = .ok b) :
    (A.inRun labels values).Performs (ofExcept result) done [] (· = b) := by
  refine .aside fun w hw ↦ ⟨b, w, ?_, rfl, hw, rfl⟩
  rw [h]
  rfl

theorem performs_journalled {act : Run τ Unit}
    (h : labels.Printable values → Quiet act fun _ ↦ True) :
    (A.inRun labels values).Performs (journalled act) done [] (fun _ ↦ True) := by
  refine .aside fun w hw ↦ ?_
  rw [journalled_apply]
  by_cases hdisabled : w.journal.disabled = true
  · exact ⟨(), w, if_pos hdisabled, trivial, .inl hdisabled, rfl⟩
  · have hprintable := hw.resolve_left hdisabled
    obtain ⟨u, hu, -⟩ := h hprintable w.journal w.caller
    obtain ⟨hresult, hcaller⟩ := Prod.mk.inj hu
    refine ⟨u, (act w).2, ?_, trivial, .inr hprintable, hcaller⟩
    rw [if_neg hdisabled]
    exact Prod.ext hresult rfl

end Run

/-! ## What is asked -/

/-- What is asked about a component: of two values how heavy they are, of more also whether each
conflicts with each other one. -/
def questionsOf : List α → List (Question α)
  | [] => []
  | [_] => []
  | [v, w] => [.weight v, .weight w]
  | component => component.map .weight ++ conflicts component

/-- All that is asked about some values with the given components. -/
def allQuestions (values : List α) (components : List (List Nat)) : List (Question α) :=
  conflicts values ++ components.flatMap fun c ↦ questionsOf (valuesAt values c)

namespace Interview

variable {record : τ → List (Question α)} {conflict : α → α → Call τ Bool}
variable {weighing : Weighing τ α ω φ} {replies : Replies α ω} {labels : Labels τ α φ}
variable {limit : SizeLimit} {before done : List (Question α)} {values c : List α}

theorem performs_conflict (h : Interview record conflict weighing replies) (a b : α)
    (done : List (Question α)) :
    (Agenda.recording replies.fault record before).Performs (conflict a b) done [.conflict a b]
      (· = replies.related a b) := by
  refine (Agenda.performs_recorded (h.conflict_eq a b) (h.conflict_noted a b) rfl).mono ?_
  intro answer hanswer
  rw [Replies.related, hanswer]

theorem ends_conflict (h : Interview record conflict weighing replies) (a b : α) :
    Call.Ends (conflict a b) (· = replies.related a b) fun _ ↦ True := by
  intro s _
  have hs := h.conflict_eq a b s
  cases hc : conflict a b s with
  | mk result t =>
    rw [hc] at hs
    cases result with
    | error e => trivial
    | ok answer =>
      change answer = replies.related a b
      rw [Replies.related, ← hs]

theorem performs_weigh (h : Interview record conflict weighing replies) (a : α) :
    (Agenda.recording replies.fault record before).Performs (weighing.weigh a) done [.weight a]
      (replies.weight a = .ok ·) :=
  Agenda.performs_recorded (h.weight_eq a) (h.weight_noted a) rfl

variable [BEq α] [Zero φ] [Add φ] [LT φ] [DecidableLT φ]

/-- The exhaustive search asks how heavy the vertices are, and then about their conflicts. -/
theorem performs_search (h : Interview record conflict weighing replies) (hc : Distinct c)
    (hsub : c ⊆ values) (hsize : 2 ≤ c.length) :
    ((Agenda.recording replies.fault record before).inRun labels values).Performs
      (Exhaustive.find labels c conflict weighing) done (c.map .weight ++ conflicts c)
      (· ⊆ values) := by
  have hlarge : ¬ c.length < 2 := Nat.not_lt.mpr hsize
  simp only [Exhaustive.find, hc.eraseDups_eq, hlarge, if_false]
  have hweights : (Agenda.recording replies.fault record before).Performs
      (c.mapM weighing.number) done (c.map .weight) (fun _ ↦ True) :=
    Weighing.performs_numbers h.weight_eq h.weight_noted (fun _ ↦ rfl) h.measured c
  refine (performs_ask hweights).bind fun weights _ _ ↦ ?_
  refine (performs_ask (performs_adjacencyTable h.performs_conflict)).bind_nothing fun table _ ↦ ?_
  have hselected := List.Subset.trans
    (filterMap_getElem?_subset c (searchAll table.cell weights).best.members) hsub
  refine (Agenda.Performs.forM fun _ _ ↦ performs_write fun _ ↦ muted_write _).nothing_bind
    fun _ _ ↦ ?_
  refine (performs_journalled fun hprintable ↦ ?_).nothing_bind fun _ _ ↦ .pure hselected
  have htext := (hprintable.of_subset hselected).selection
  exact (Quiet.ask htext).bind fun text _ ↦ .write _

/-- What is asked to select from a component. -/
theorem performs_select (h : Interview record conflict weighing replies) (hlimit : limit.Decides)
    (number : Nat) (hc : Distinct c) (hsub : c ⊆ values) :
    ((Agenda.recording replies.fault record before).inRun labels values).Performs
      (ByComponent.select labels limit conflict weighing number c) done (questionsOf c)
      (· ⊆ values) := by
  match c with
  | [] => exact .pure (List.nil_subset values)
  | [v] => exact (performs_write fun _ ↦ muted_write _).nothing_bind fun _ _ ↦ .pure hsub
  | [v, w] =>
    refine (performs_write fun _ ↦ muted_write _).nothing_bind fun _ _ ↦ ?_
    refine (performs_ask (h.performs_weigh v)).bind fun first hfirst _ ↦ ?_
    refine (performs_ask (h.performs_weigh w)).bind_nothing fun second hsecond ↦ ?_
    obtain ⟨b, hb⟩ := h.compared v w first second hfirst hsecond
    refine (performs_ofExcept hb).nothing_bind fun heavier _ ↦ .pure ?_
    have hmem : (if heavier = true then v else w) ∈ [v, w] := by split <;> simp
    exact List.cons_subset.mpr ⟨hsub hmem, List.nil_subset values⟩
  | u :: v :: w :: rest =>
    have hsearch : ∀ done,
        ((Agenda.recording replies.fault record before).inRun labels values).Performs
          (Exhaustive.find labels (u :: v :: w :: rest) conflict weighing) done
          (questionsOf (u :: v :: w :: rest)) (· ⊆ values) :=
      fun done ↦ h.performs_search hc hsub (by simp)
    obtain ⟨b, hb⟩ := hlimit (u :: v :: w :: rest).length
    simp only [ByComponent.select]
    refine (performs_ofExcept hb).nothing_bind fun large _ ↦ ?_
    split
    · refine (performs_write fun _ ↦ muted_emit _ _).nothing_bind fun _ _ ↦ ?_
      exact (performs_write fun _ ↦ muted_write _).nothing_bind fun _ _ ↦ hsearch done
    · exact (performs_write fun _ ↦ muted_write _).nothing_bind fun _ _ ↦ hsearch done

/-- Components are asked about one after the other. -/
theorem performs_selections (h : Interview record conflict weighing replies)
    (hlimit : limit.Decides) (hvalues : Distinct values) {components : List (List α)}
    (hsub : ∀ c ∈ components, c.Sublist values) :
    ((Agenda.recording replies.fault record before).inRun labels values).Performs
      (components.zipIdx.mapM fun item ↦
        ByComponent.select labels limit conflict weighing item.2 item.1)
      done (components.flatMap questionsOf) (·.flatten ⊆ values) := by
  have hall : ((Agenda.recording replies.fault record before).inRun labels values).Performs
      (components.zipIdx.mapM fun item ↦
        ByComponent.select labels limit conflict weighing item.2 item.1)
      done (components.zipIdx.flatMap fun item ↦ questionsOf item.1)
      (List.Forall₂ (fun _ S ↦ S ⊆ values) components.zipIdx) := by
    refine .mapM fun item hitem done ↦ ?_
    have hc := hsub item.1 (List.mem_of_getElem? (List.mem_zipIdx_iff_getElem?.mp hitem))
    exact h.performs_select hlimit item.2 (hvalues.sublist hc) hc.subset
  have hquestions : (components.zipIdx.flatMap fun item ↦ questionsOf item.1) =
      components.flatMap questionsOf := by
    conv_rhs => rw [← List.zipIdx_map_fst 0 components, List.flatMap_map]
  rw [hquestions] at hall
  refine hall.mono fun selections hselections a ha ↦ ?_
  obtain ⟨S, hS, haS⟩ := List.mem_flatten.mp ha
  exact forall_mem_of_forall₂ hselections S hS haS

/-- What is left to do after the last question: a text of the selection is asked for and written. -/
def report (labels : Labels τ α φ) (selection : List α) : Run τ (List α) := do
  let text ← Run.ask (labels.selection selection)
  Run.write (.result "Selection" text)
  Run.write .closeSection
  return selection

omit [BEq α] [Zero φ] [Add φ] [LT φ] [DecidableLT φ] in
/-- The text may be missing, but the record stays as it is. -/
theorem traces_report (hlabels : ∀ a s, record (labels.vertex a s).2 = record s)
    {fault : Question α → Option Failure} {selection : List α} (hsub : selection ⊆ values) :
    ((Agenda.recording fault record before).inRun labels values).Traces (labels.Printable values)
      (report labels selection) done [] := by
  refine .of_kept fun w hw ↦ ⟨?_, fun hprintable ↦ ?_⟩
  · have hvertex : ∀ a, Call.Preserves (record · = before ++ done) (labels.vertex a) :=
      fun a ↦ .of_kept (hlabels a) _
    have hreport : Call.Preserves ((record · = before ++ done) ∘ World.caller)
        (report labels selection) := by
      refine (preserves_ask (Labels.preserves_selection hvertex selection)).bind fun text ↦ ?_
      exact (preserves_write _).bind fun _ ↦ (preserves_write _).bind fun _ ↦ .pure selection
    exact Call.Preserves.iff_snd.mp hreport w hw.2
  · have htext := (hprintable.of_subset hsub).selection
    have hreport : Quiet (report labels selection) fun _ ↦ True :=
      (Quiet.ask htext).bind fun text _ ↦ (Quiet.write _).bind fun _ _ ↦
        (Quiet.write _).bind fun _ _ ↦ .pure trivial
    obtain ⟨S, hS, -⟩ := hreport w.journal w.caller
    exact ⟨S, (Prod.mk.inj hS).1⟩

/-- What is asked about a graph that has been built. -/
theorem traces_findInGraph (h : Interview record conflict weighing replies)
    (hlabels : ∀ a s, record (labels.vertex a s).2 = record s) (hlimit : limit.Decides)
    (hvalues : Distinct values) (hsize : 2 ≤ values.length) {g : Graph τ α}
    (hadjacent : g.adjacent = conflict) (hg : g.Represents replies.related values) :
    ((Agenda.recording replies.fault record before).inRun labels values).Traces
      (labels.Printable values) (ByComponent.findInGraph labels limit g weighing) done
      ((componentsOf replies.related values).flatMap questionsOf) := by
  have hlarge : ¬ g.size < 2 := by
    rw [hg.size_eq]
    exact Nat.not_lt.mpr hsize
  simp only [ByComponent.findInGraph, hlarge, if_false]
  refine (performs_write fun _ ↦ muted_write _).nothing_bind_traces fun _ _ ↦ ?_
  refine (performs_journalled fun hprintable ↦ ?_).nothing_bind_traces fun _ _ ↦ ?_
  · rw [hg.vertices]
    exact (Quiet.ask hprintable.names).bind fun names _ ↦ .write _
  rw [Graph.components_eq hg.vertices hg.table]
  subst hadjacent
  refine (h.performs_selections hlimit hvalues fun c ↦
    sublist_of_mem_componentsOf).bind_traces_nothing ?_
  exact fun selections hsub ↦ traces_report hlabels hsub

/-- What is asked about the different values of a list. -/
theorem traces_find (h : Interview record conflict weighing replies)
    (hlabels : ∀ a s, record (labels.vertex a s).2 = record s) (hlimit : limit.Decides)
    {vertices : List α} (hsize : 2 ≤ vertices.eraseDups.length) :
    ((Agenda.recording replies.fault record before).inRun labels vertices.eraseDups).Traces
      (labels.Printable vertices.eraseDups)
      (ByComponent.find labels limit vertices conflict weighing) done
      (allQuestions vertices.eraseDups ((tableOf replies.related vertices.eraseDups).components
        vertices.eraseDups.length)) := by
  have hvalues := (distinct_eraseDups vertices).eraseDups_eq
  have hperforms : (Agenda.recording replies.fault record before).Performs
      (Graph.build vertices.eraseDups conflict) done (conflicts vertices.eraseDups.eraseDups)
      (fun _ ↦ True) := Graph.performs_build h.performs_conflict
  have hends : Call.Ends (Graph.build vertices.eraseDups conflict)
      (fun g ↦ g.adjacent = conflict ∧
        g.Represents replies.related vertices.eraseDups.eraseDups) fun _ ↦ True :=
    Graph.build_ends fun a _ b _ ↦ h.ends_conflict a b
  have hbuild := hperforms.and_ends hends
  rw [hvalues] at hbuild
  have hquestions : allQuestions vertices.eraseDups
      ((tableOf replies.related vertices.eraseDups).components vertices.eraseDups.length) =
        conflicts vertices.eraseDups ++
          (componentsOf replies.related vertices.eraseDups).flatMap questionsOf := by
    rw [allQuestions, componentsOf, List.flatMap_map]
  simp only [ByComponent.find, Nat.not_lt.mpr hsize, if_false]
  rw [hquestions]
  refine (performs_ask hbuild).bind_traces fun g hg ↦ ?_
  exact h.traces_findInGraph hlabels hlimit (distinct_eraseDups vertices) hsize hg.2.1 hg.2.2

end Interview

/-! ## What the record shows -/

/-- The value whose weight is asked for. -/
def Question.weighed : Question α → Option α
  | .conflict _ _ => none
  | .weight a => some a

/-- What a caller was asked for a selection from some values, and what came of it. -/
structure Questioned (replies : Replies α ω) (values : List α) (components : List (List Nat))
    (asked : List (Question α)) (result : Except Failure β) : Prop where
  decomposed : Components replies.related values components
  cut : CutShort replies.fault (allQuestions values components) asked result
  /-- No weight is asked for twice. -/
  once : (asked.filterMap Question.weighed).Nodup
  /-- No weight is asked for of a value that is a component of its own. -/
  not_alone : ∀ a, .weight a ∈ asked → ∃ c ∈ components, 2 ≤ c.length ∧ a ∈ valuesAt values c

section Weights

variable {values : List α} {components : List (List Nat)}

theorem filterMap_weighed_conflicts (values : List α) :
    (conflicts values).filterMap Question.weighed = [] := by
  refine List.filterMap_eq_nil_iff.mpr fun q hq ↦ ?_
  obtain ⟨l, -, hq⟩ := List.mem_flatMap.mp hq
  obtain ⟨r, -, hq⟩ := List.mem_flatMap.mp hq
  split at hq
  · exact absurd hq List.not_mem_nil
  · rw [List.mem_singleton.mp hq]
    rfl

theorem filterMap_weighed_questionsOf (c : List α) :
    (questionsOf c).filterMap Question.weighed = if c.length < 2 then [] else c := by
  match c with
  | [] => rfl
  | [_] => rfl
  | [_, _] => rfl
  | u :: v :: w :: rest =>
    have hmap : ∀ xs : List α, (xs.map Question.weight).filterMap Question.weighed = xs := by
      intro xs
      rw [List.filterMap_map]
      exact List.filterMap_some
    have hmany : questionsOf (u :: v :: w :: rest) =
        (u :: v :: w :: rest).map .weight ++ conflicts (u :: v :: w :: rest) := rfl
    rw [hmany, List.filterMap_append, filterMap_weighed_conflicts, List.append_nil, hmap]
    exact (if_neg (by simp)).symm

theorem filterMap_weighed_allQuestions (values : List α) (components : List (List Nat)) :
    (allQuestions values components).filterMap Question.weighed =
      components.flatMap fun c ↦
        if (valuesAt values c).length < 2 then [] else valuesAt values c := by
  rw [allQuestions, List.filterMap_append, filterMap_weighed_conflicts, List.nil_append,
    List.filterMap_flatMap]
  simp only [filterMap_weighed_questionsOf]

/-- The weights that are asked for are those of different values. -/
theorem Components.nodup_weighed {p : α → α → Bool} (h : Components p values components)
    (hvalues : values.Nodup) :
    ((allQuestions values components).filterMap Question.weighed).Nodup := by
  rw [filterMap_weighed_allQuestions]
  have hall : (components.flatMap (valuesAt values)).Nodup :=
    (flatten_valuesAt h.places).nodup_iff.mpr hvalues
  obtain ⟨hparts, hapart⟩ := List.nodup_flatMap.mp hall
  have hsub : ∀ c : List α, (if c.length < 2 then [] else c).Sublist c := by
    intro c
    split
    · exact List.nil_sublist c
    · exact List.Sublist.refl c
  refine List.nodup_flatMap.mpr ⟨fun c hc ↦ (hparts c hc).sublist (hsub _), ?_⟩
  exact hapart.imp fun hcd a hac had ↦ hcd ((hsub _).subset hac) ((hsub _).subset had)

/-- A weight that is asked for is that of a value in a component of two or more. -/
theorem Components.exists_of_weighed {p : α → α → Bool} (h : Components p values components) {a : α}
    (ha : .weight a ∈ allQuestions values components) :
    ∃ c ∈ components, 2 ≤ c.length ∧ a ∈ valuesAt values c := by
  have hweighed : a ∈ (allQuestions values components).filterMap Question.weighed :=
    List.mem_filterMap.mpr ⟨.weight a, ha, rfl⟩
  rw [filterMap_weighed_allQuestions] at hweighed
  obtain ⟨c, hc, hac⟩ := List.mem_flatMap.mp hweighed
  have hlength := (forall₂_valuesAt fun i hi ↦ h.lt_of_mem hc i hi).length_eq
  split at hac
  · exact absurd hac List.not_mem_nil
  next hsize => exact ⟨c, hc, by omega, hac⟩

theorem Components.questioned {replies : Replies α ω}
    (h : Components replies.related values components) (hvalues : values.Nodup)
    {asked : List (Question α)} {result : Except Failure β}
    (hcut : CutShort replies.fault (allQuestions values components) asked result) :
    Questioned replies values components asked result where
  decomposed := h
  cut := hcut
  once := (h.nodup_weighed hvalues).sublist (hcut.begins.sublist.filterMap _)
  not_alone _ ha := h.exists_of_weighed (hcut.begins.subset ha)

end Weights

namespace ByComponent

variable [BEq α] [ReflBEq α] [Zero φ] [Add φ] [LT φ] [DecidableLT φ]
variable {record : τ → List (Question α)} {conflict : α → α → Call τ Bool}
variable {weighing : Weighing τ α ω φ} {replies : Replies α ω} {labels : Labels τ α φ}
variable {limit : SizeLimit} {vertices : List α}

/-- The record that a caller keeps of a selection shows all questions, up to the first that fails.
If none does, the selection is answered, unless its text cannot be made. -/
theorem find_asks (h : Interview record conflict weighing replies)
    (hlabels : ∀ a s, record (labels.vertex a s).2 = record s) (hlimit : limit.Decides)
    (hsize : 2 ≤ vertices.eraseDups.length) {j : Journal}
    (htexts : j.disabled = true ∨ labels.Printable vertices.eraseDups) (s : τ) :
    ∃ components asked,
      record ((find labels limit vertices conflict weighing).outcome j s).2 = record s ++ asked ∧
        Questioned replies vertices.eraseDups components asked
          ((find labels limit vertices conflict weighing).outcome j s).1 ∧
        (labels.Printable vertices.eraseDups → (∀ q ∈ asked, replies.fault q = none) →
          ∃ S, ((find labels limit vertices conflict weighing).outcome j s).1 = .ok S) := by
  have hparts := components_tableOf replies.related vertices.eraseDups
  have htraces : ((Agenda.recording replies.fault record (record s)).inRun labels
      vertices.eraseDups).Traces (labels.Printable vertices.eraseDups)
      (find labels limit vertices conflict weighing) []
      (allQuestions vertices.eraseDups ((tableOf replies.related vertices.eraseDups).components
        vertices.eraseDups.length)) := h.traces_find hlabels hlimit hsize
  obtain ⟨asked, hrecord, hcut, hanswers⟩ := htraces.recorded htexts
  have hasked := hparts.questioned (distinct_eraseDups vertices).nodup hcut
  exact ⟨_, asked, hrecord, hasked, hanswers⟩

/-- All questions about a vertex without conflicts and two that are in conflict. -/
example : allQuestions [7, 8, 9] [[0], [1, 2]] =
    [.conflict 7 8, .conflict 7 9, .conflict 8 7, .conflict 8 9, .conflict 9 7, .conflict 9 8,
      .weight 8, .weight 9] := by
  decide

end ByComponent

end Loadout
