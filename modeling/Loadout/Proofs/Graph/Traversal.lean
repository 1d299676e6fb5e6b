import Loadout.Proofs.Graph.DepthFirst
import Mathlib.Algebra.Ring.Nat
import Mathlib.Data.List.Permutation

/-!
# The steps of a traversal

The components of a table are found one step after the other.  Between two searches a traversal looks
for the next index to start from; during a search it takes one index after the other off its stack.
This is what `Step` describes; what the table answers is the same before and after a step,
`Step.answer_eq`, and `Step.effect` says what a step does to the stack and to the visited indices.
Every turn of a search leaves fewer indices unvisited or the same ones and a shorter stack,
`Turn.rest_lt`.

There is one way to go on from every state, so a traversal has one course, `traversed`.  It ends
with the components of the table, and it puts the row of every index on a stack once.
-/

namespace Loadout.Table

/-- A search under way. -/
structure Search where
  stack : List Nat
  visited : Array Bool
  found : List Nat

namespace Search

/-- The number of unvisited indices and the length of the stack. -/
def rest (s : Search) : Nat × Nat :=
  (s.visited.count false, s.stack.length)

end Search

/-- What happens in one step of a traversal. -/
inductive Event
  /-- An index has been visited, and nothing starts from it. -/
  | leave (i : Nat)
  /-- A search starts with one index on its stack. -/
  | start (i : Nat)
  /-- An index is taken off the stack that has been visited. -/
  | pass (i : Nat)
  /-- An index is taken off the stack and visited, and a row is put on the stack. -/
  | expand (i : Nat) (row : List Nat)
  /-- A search is over. -/
  | finish (component : List Nat)
deriving DecidableEq

namespace Event

/-- The indices that are put on a stack, in order. -/
def pushed : Event → List Nat
  | start i => [i]
  | expand _ row => row
  | _ => []

/-- The index that is visited, and the row that is put on the stack for it. -/
def expansion? : Event → Option (Nat × List Nat)
  | expand i row => some (i, row)
  | _ => none

def isStart : Event → Bool
  | start _ => true
  | _ => false

end Event

/-- One turn of a search: the index on top of the stack is passed over or visited. -/
inductive Turn (t : Table) : Search → Event → Search → Prop
  | pass {i : Nat} {stack found : List Nat} {visited : Array Bool} :
    visited[i]? ≠ some false →
    Turn t ⟨i :: stack, visited, found⟩ (.pass i) ⟨stack, visited, found⟩
  | expand {i : Nat} {stack found : List Nat} {visited : Array Bool} :
    visited[i]? = some false →
    Turn t ⟨i :: stack, visited, found⟩ (.expand i (t.columns i))
      ⟨(t.columns i).reverse ++ stack, visited.setIfInBounds i true, found ++ [i]⟩

/-- A traversal under way: the index to start from next, or that the present search started from, and
the components so far. -/
inductive Traversal
  | between (start : Nat) (visited : Array Bool) (components : List (List Nat))
  | searching (start : Nat) (search : Search) (components : List (List Nat))

namespace Traversal

def stack : Traversal → List Nat
  | between .. => []
  | searching _ s _ => s.stack

def visited : Traversal → Array Bool
  | between _ visited _ => visited
  | searching _ s _ => s.visited

/-- The beginning of the traversal of `n` indices. -/
def initial (n : Nat) : Traversal :=
  between 0 (Array.replicate n false) []

end Traversal

/-- One step of the traversal of `n` indices. -/
inductive Step (t : Table) (n : Nat) : Traversal → Event → Traversal → Prop
  | leave {start : Nat} {visited : Array Bool} {cs : List (List Nat)} :
    start < n → visited[start]? ≠ some false →
    Step t n (.between start visited cs) (.leave start) (.between (start + 1) visited cs)
  | start {start : Nat} {visited : Array Bool} {cs : List (List Nat)} :
    start < n → visited[start]? = some false →
    Step t n (.between start visited cs) (.start start) (.searching start ⟨[start], visited, []⟩ cs)
  | turn {start : Nat} {s s' : Search} {e : Event} {cs : List (List Nat)} :
    Turn t s e s' → Step t n (.searching start s cs) e (.searching start s' cs)
  | finish {start : Nat} {visited : Array Bool} {found : List Nat} {cs : List (List Nat)} :
    Step t n (.searching start ⟨[], visited, found⟩ cs) (.finish found.mergeSort)
      (.between start visited (cs ++ [found.mergeSort]))

/-- Several steps, with what happens in them. -/
inductive Steps (t : Table) (n : Nat) : Traversal → List Event → Traversal → Prop
  | nil {s : Traversal} : Steps t n s [] s
  | cons {s s' u : Traversal} {e : Event} {events : List Event} :
    Step t n s e s' → Steps t n s' events u → Steps t n s (e :: events) u

variable {t : Table} {n : Nat} {s s' u : Traversal} {e e' : Event} {events events' : List Event}

/-! ## Single steps -/

/-- A turn visits an index for the first time, or else it shortens the stack. -/
theorem Turn.rest_lt {s s' : Search} (h : Turn t s e s') :
    Prod.Lex (· < ·) (· < ·) s'.rest s.rest := by
  cases h with
  | pass => exact .right _ (Nat.lt_succ_self _)
  | expand hi => exact .left _ _ (count_visit_lt hi)

theorem Turn.eq_of_turn {s u u' : Search} (h : Turn t s e u) (h' : Turn t s e' u') :
    e = e' ∧ u = u' := by
  cases h with
  | pass hi =>
    cases h' with
    | pass => exact ⟨rfl, rfl⟩
    | expand hi' => exact absurd hi' hi
  | expand hi =>
    cases h' with
    | pass hi' => exact absurd hi hi'
    | expand => exact ⟨rfl, rfl⟩

/-- There is one way to go on from a state. -/
theorem Step.eq_of_step {u' : Traversal} (h : Step t n s e u) (h' : Step t n s e' u') :
    e = e' ∧ u = u' := by
  cases h with
  | leave _ hi =>
    cases h' with
    | leave => exact ⟨rfl, rfl⟩
    | start _ hi' => exact absurd hi' hi
  | start _ hi =>
    cases h' with
    | leave _ hi' => exact absurd hi hi'
    | start => exact ⟨rfl, rfl⟩
  | turn h =>
    cases h' with
    | turn h' =>
      obtain ⟨rfl, rfl⟩ := h.eq_of_turn h'
      exact ⟨rfl, rfl⟩
    | finish => cases h
  | finish =>
    cases h' with
    | turn h' => cases h'
    | finish => exact ⟨rfl, rfl⟩

/-- A step takes at most the top off the stack before it puts indices on it, and it visits an index
only to put its row on the stack. -/
structure Step.Effect (t : Table) (s : Traversal) (e : Event) (s' : Traversal) : Prop where
  stack_eq : s'.stack = e.pushed.reverse ++ s.stack.tail
  visited_eq : s'.visited = match e.expansion? with
    | some (i, _) => s.visited.setIfInBounds i true
    | none => s.visited
  row_eq : ∀ i row, e.expansion? = some (i, row) → s.visited[i]? = some false ∧ row = t.columns i

theorem Step.effect (h : Step t n s e s') : Effect t s e s' := by
  cases h with
  | leave | start | finish => exact ⟨rfl, rfl, fun _ _ h ↦ nomatch h⟩
  | turn h =>
    cases h with
    | pass => exact ⟨rfl, rfl, fun _ _ h ↦ nomatch h⟩
    | expand hi =>
      refine ⟨rfl, rfl, fun i row h ↦ ?_⟩
      obtain ⟨rfl, rfl⟩ := Prod.mk.inj (Option.some.inj h)
      exact ⟨hi, rfl⟩

/-- A search visits the index that it starts from. -/
theorem not_unvisited_of_search {start : Nat} {visited visited' : Array Bool} {found : List Nat}
    (hstart : visited[start]? = some false)
    (h : t.search [start] visited [] = (found, visited')) : visited'[start]? ≠ some false := by
  obtain ⟨new, hnew, heq⟩ := search_eq t [start] visited []
  obtain ⟨-, rfl⟩ := Prod.mk.inj (h.symm.trans heq)
  have hlt := lt_of_unvisited hstart
  have hmem : start ∈ visitedSet (visitAll visited new) :=
    (mem_visitedSet_visitAll fun i hi ↦ hnew.lt hi).mpr (hnew.started start List.mem_cons_self hlt)
  exact fun hnot ↦ (unvisited_iff (by simpa using hlt)).mp hnot hmem

/-! ### What is answered from a state -/

/-- The components that are answered from a state on, together with those so far. -/
def Traversal.answer (t : Table) (n : Nat) : Traversal → List (List Nat)
  | .between start visited cs => cs ++ t.componentsFrom (List.range' start (n - start)) visited
  | .searching start s cs =>
    let (found, visited) := t.search s.stack s.visited s.found
    cs ++ found.mergeSort :: t.componentsFrom (List.range' start (n - start)) visited

theorem Turn.search_eq {s s' : Search} (h : Turn t s e s') :
    t.search s.stack s.visited s.found = t.search s'.stack s'.visited s'.found := by
  cases h with
  | pass hi => rw [search, dif_neg hi]
  | expand hi => rw [search, dif_pos hi]

theorem componentsFrom_of_lt {start : Nat} (hlt : start < n) (visited : Array Bool) :
    t.componentsFrom (List.range' start (n - start)) visited =
      t.componentsFrom (start :: List.range' (start + 1) (n - (start + 1))) visited := by
  rw [← List.range'_succ, show n - (start + 1) + 1 = n - start by omega]

/-- A step leaves the answer as it is. -/
theorem Step.answer_eq (h : Step t n s e s') : s.answer t n = s'.answer t n := by
  cases h with
  | leave hlt hi =>
    rw [Traversal.answer, componentsFrom_of_lt hlt, componentsFrom, if_neg hi, Traversal.answer]
  | @start start visited cs hlt hi =>
    cases hsearch : t.search [start] visited [] with
    | mk found visited' =>
      have hvisited := not_unvisited_of_search hi hsearch
      simp only [Traversal.answer, componentsFrom_of_lt hlt, componentsFrom, if_pos hi, hsearch,
        if_neg hvisited]
  | turn h => simp only [Traversal.answer, h.search_eq]
  | finish =>
    simp only [Traversal.answer, search, List.append_assoc, List.singleton_append]

/-! ## Several steps -/

namespace Steps

theorem single (h : Step t n s e s') : Steps t n s [e] s' :=
  .cons h .nil

theorem append (h : Steps t n s events s') (h' : Steps t n s' events' u) :
    Steps t n s (events ++ events') u := by
  induction h with
  | nil => exact h'
  | cons hstep _ ih => exact .cons hstep (ih h')

/-- What happens from a state on is a beginning of what happens until the end. -/
theorem isPrefix {v : Traversal} (h : Steps t n s events u) (hend : ∀ e v, ¬ Step t n u e v)
    (h' : Steps t n s events' v) : events' <+: events := by
  induction h' generalizing events with
  | nil => exact List.nil_prefix
  | cons hstep' _ ih =>
    cases h with
    | nil => exact absurd hstep' (hend _ _)
    | cons hstep h =>
      obtain ⟨rfl, rfl⟩ := hstep.eq_of_step hstep'
      exact List.cons_prefix_cons.mpr ⟨rfl, ih h⟩

end Steps

/-- Events in which some indices are visited, in order, and a number of searches start. -/
structure Accounts (t : Table) (events : List Event) (visits : List Nat) (starts : Nat) :
    Prop where
  expansions : events.filterMap Event.expansion? = visits.map fun i ↦ (i, t.columns i)
  starts : events.countP Event.isStart = starts

namespace Accounts

variable {visits visits' : List Nat} {starts starts' : Nat}

theorem nil : Accounts t [] [] 0 :=
  ⟨rfl, rfl⟩

theorem append (h : Accounts t events visits starts) (h' : Accounts t events' visits' starts') :
    Accounts t (events ++ events') (visits ++ visits') (starts + starts') where
  expansions := by rw [List.filterMap_append, h.expansions, h'.expansions, List.map_append]
  starts := by rw [List.countP_append, h.starts, h'.starts]

/-- As many indices are put on stacks as searches start, and as there are columns in the rows. -/
theorem length_pushed (h : Accounts t events visits starts) :
    (events.flatMap Event.pushed).length =
      starts + (visits.map fun i ↦ (t.columns i).length).sum := by
  have hcount : (events.flatMap Event.pushed).length = events.countP Event.isStart +
      ((events.filterMap Event.expansion?).map fun r ↦ r.2.length).sum := by
    clear h
    induction events with
    | nil => rfl
    | cons e events ih =>
      rw [List.flatMap_cons, List.length_append, ih, List.countP_cons, List.filterMap_cons]
      cases e <;> simp [Event.pushed, Event.isStart, Event.expansion?] <;> omega
  rw [hcount, h.starts, h.expansions, List.map_map]
  rfl

end Accounts

/-! ## The course of a traversal -/

/-- The turns of a search, until its stack is empty. -/
theorem steps_search (t : Table) (n start : Nat) (cs : List (List Nat)) (stack : List Nat)
    (visited : Array Bool) (found : List Nat) :
    ∃ events new, t.search stack visited found = (found ++ new, visitAll visited new) ∧
      Steps t n (.searching start ⟨stack, visited, found⟩ cs) events
        (.searching start ⟨[], visitAll visited new, found ++ new⟩ cs) ∧
      Accounts t events new 0 := by
  induction stack, visited, found using Table.search.induct t with
  | case1 visited found =>
    refine ⟨[], [], ?_, ?_, .nil⟩
    · rw [search, List.append_nil, visitAll, List.foldl_nil]
    · rw [visitAll, List.foldl_nil, List.append_nil]
      exact .nil
  | case2 visited found i stack hi ih =>
    obtain ⟨events, new, heq, hsteps, hevents⟩ := ih
    have hvisit : visitAll (visited.setIfInBounds i true) new = visitAll visited (i :: new) := rfl
    rw [hvisit, List.append_assoc, List.singleton_append] at heq hsteps
    refine ⟨.expand i (t.columns i) :: events, i :: new, ?_, .cons (.turn (.expand hi)) hsteps, ?_⟩
    · rw [(Turn.expand hi).search_eq, heq]
    · exact (⟨rfl, rfl⟩ : Accounts t [.expand i (t.columns i)] [i] 0).append hevents
  | case3 visited found i stack hi ih =>
    obtain ⟨events, new, heq, hsteps, hevents⟩ := ih
    refine ⟨.pass i :: events, new, ?_, .cons (.turn (.pass hi)) hsteps, ?_⟩
    · rw [(Turn.pass hi).search_eq, heq]
    · exact (⟨rfl, rfl⟩ : Accounts t [.pass i] [] 0).append hevents

/-- The steps from a state between two searches to the end. -/
theorem steps_componentsFrom {k m : Nat} (hm : k + m = n) (visited : Array Bool)
    (cs : List (List Nat)) :
    ∃ events visits visited',
      Steps t n (.between k visited cs) events
        (.between n visited' (cs ++ t.componentsFrom (List.range' k m) visited)) ∧
      Accounts t events visits (t.componentsFrom (List.range' k m) visited).length ∧
      visits.Perm (t.componentsFrom (List.range' k m) visited).flatten := by
  induction m generalizing k visited cs with
  | zero =>
    obtain rfl : k = n := hm
    refine ⟨[], [], visited, ?_, .nil, .refl _⟩
    rw [List.range'_zero, componentsFrom, List.append_nil]
    exact .nil
  | succ m ih =>
    have hk : k < n := by omega
    rw [List.range'_succ, componentsFrom]
    split
    next hunvisited =>
      obtain ⟨turns, new, heq, hturns, hnew⟩ := steps_search t n k cs [k] visited []
      rw [List.nil_append] at heq hturns
      obtain ⟨events, visits, visited', hsteps, hevents, hperm⟩ :=
        ih (by omega : k + 1 + m = n) (visitAll visited new) (cs ++ [new.mergeSort])
      rw [heq]
      have hnext : Steps t n (.between k visited cs)
          (.start k :: turns ++ [.finish new.mergeSort, .leave k])
          (.between (k + 1) (visitAll visited new) (cs ++ [new.mergeSort])) :=
        .cons (.start hk hunvisited) <| hturns.append <| .cons .finish <| .single <|
          .leave hk (not_unvisited_of_search hunvisited heq)
      refine ⟨_, new ++ visits, visited', hnext.append (?_ : Steps t n _ events _), ?_, ?_⟩
      · simpa using hsteps
      · have hall := (⟨rfl, rfl⟩ : Accounts t [.start k] [] 1).append <| hnew.append <|
          (⟨rfl, rfl⟩ : Accounts t [.finish new.mergeSort, .leave k] [] 0).append hevents
        simpa [Nat.add_comm] using hall
      · exact (List.mergeSort_perm _ _).symm.append hperm
    next hvisited =>
      obtain ⟨events, visits, visited', hsteps, hevents, hperm⟩ :=
        ih (by omega : k + 1 + m = n) visited cs
      refine ⟨.leave k :: events, visits, visited', .cons (.leave hk hvisited) hsteps, ?_, hperm⟩
      simpa using (⟨rfl, rfl⟩ : Accounts t [.leave k] [] 0).append hevents

/-! ## The cells that are set -/

/-- The number of cells of a table that are set. -/
def trueCount (t : Table) : Nat :=
  (t.toList.map fun row ↦ row.count true).sum

theorem length_columns (t : Table) (i : Nat) :
    (t.columns i).length = (t.getD i #[]).count true := by
  have hrow : (t.getD i #[]).toList = (List.range (t.getD i #[]).size).map (t.cell i) := by
    refine List.ext_getElem (by simp) fun j hj _ ↦ ?_
    have hj : j < (t.getD i #[]).size := by rwa [Array.length_toList] at hj
    rw [List.getElem_map, List.getElem_range, cell, ← Array.getElem_eq_getD (h := hj),
      Array.getElem_toList]
  rw [columns, ← List.countP_eq_length_filter, ← Array.count_toList, hrow, List.count,
    List.countP_map]
  exact List.countP_congr fun j _ ↦ by simp

theorem sum_length_columns (ht : Square n t) :
    ((List.range n).map fun i ↦ (t.columns i).length).sum = t.trueCount := by
  have hrows : (List.range n).map (fun i ↦ (t.columns i).length) =
      t.toList.map fun row ↦ row.count true := by
    refine List.ext_getElem (by simp [ht.size]) fun i hi _ ↦ ?_
    have hlt : i < t.size := ht.size ▸ (by simpa using hi)
    simp [length_columns, Array.getD, hlt]
  rw [hrows, trueCount]

/-! ## Whole traversals -/

/-- What happens in the traversal of a table. -/
structure Traversed (t : Table) (n : Nat) (events : List Event) : Prop where
  /-- It comes to an end, with the components of the table … -/
  ends : ∃ visited, Steps t n (.initial n) events (.between n visited (t.components n))
  /-- … and it can take no other course. -/
  course : ∀ events' s, Steps t n (.initial n) events' s → events' <+: events
  /-- What the table answers does not change on the way. -/
  answers : ∀ s e s', Step t n s e s' → s.answer t n = s'.answer t n
  /-- Fewer indices are unvisited after each turn of a search, or as many and the stack is shorter. -/
  decreases : ∀ s e s', Turn t s e s' → Prod.Lex (· < ·) (· < ·) s'.rest s.rest
  effect : ∀ s e s', Step t n s e s' → Step.Effect t s e s'
  /-- Every index is visited once, and its row is put on the stack then. -/
  expansions : (events.filterMap Event.expansion?).Perm
    ((List.range n).map fun i ↦ (i, t.columns i))
  /-- As many indices are put on stacks as there are components and cells that are set. -/
  pushes : (events.flatMap Event.pushed).length = (t.components n).length + t.trueCount

/-- The traversal of a table ends, and it expands every index once. -/
theorem traversed (ht : Square n t) : ∃ events, Traversed t n events := by
  obtain ⟨events, visits, visited, hsteps, hevents, hperm⟩ :=
    steps_componentsFrom (t := t) (Nat.zero_add n) (Array.replicate n false) []
  rw [← List.range_eq_range', ← components] at hsteps hevents hperm
  have hvisits : visits.Perm (List.range n) := hperm.trans ((decomposed_components ht).perm_range ht)
  have hend : ∀ e s, ¬ Step t n (.between n visited (t.components n)) e s := by
    rintro e s (⟨hlt, -⟩ | ⟨hlt, -⟩)
    · exact Nat.lt_irrefl n hlt
    · exact Nat.lt_irrefl n hlt
  refine ⟨events, ⟨visited, hsteps⟩, fun _ _ h ↦ hsteps.isPrefix hend h, fun _ _ _ h ↦ h.answer_eq,
    fun _ _ _ h ↦ h.rest_lt, fun _ _ _ h ↦ h.effect, ?_, ?_⟩
  · rw [hevents.expansions]
    exact hvisits.map _
  · rw [hevents.length_pushed, (hvisits.map _).sum_nat, sum_length_columns ht]

namespace Sample

/-- A table that is not symmetric, with an index that is put on a stack three times. -/
def lopsided : Table :=
  #[#[false, false, true, true], #[true, false, false, false], #[false, false, false, true],
    #[false, false, true, true]]

end Sample

theorem traversed_sample : Square 4 Sample.lopsided ∧ ∃ events,
    Traversed Sample.lopsided 4 events ∧ (events.flatMap Event.pushed).length = 8 := by
  have hsquare : Square 4 Sample.lopsided := ⟨rfl, by decide⟩
  obtain ⟨events, h⟩ := traversed hsquare
  have hcount : (Sample.lopsided.components 4).length + Sample.lopsided.trueCount = 8 := by cbv
  exact ⟨hsquare, events, h, h.pushes.trans hcount⟩

end Loadout.Table
