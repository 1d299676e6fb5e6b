import Loadout.Proofs.Outcome

/-!
# Working through steps

A computation may work through a list of steps, one after the other, until one of them is at fault.
`Agenda.Performs` says that it does so and leaves out none, repeats none and begins no other; there
is one rule for each way in which computations are put together.  What only looks at a part of the
state can be said of that part alone, `Agenda.within`.  A computation that may also fail afterwards,
for some other reason, at least leaves the traces of the steps, `Agenda.Traces`.
-/

namespace Loadout

variable {σ τ ι α β γ : Type}

/-- The first step of a list that is at fault, and those before it. -/
structure StopsAt (fault : ι → Option Failure) (steps kept : List ι) (i : ι) (e : Failure) :
    Prop where
  begins : kept ++ [i] <+: steps
  kept_fine : ∀ k ∈ kept, fault k = none
  fault_eq : fault i = some e

/-- Steps that can be at fault: what holds after some of them have been performed, and what holds
when the last one of some was at fault. -/
structure Agenda (σ ι : Type) where
  fault : ι → Option Failure
  after : List ι → σ → Prop
  stopped : List ι → σ → Prop

namespace StopsAt

variable {fault : ι → Option Failure} {xs ys kept : List ι} {i : ι} {e : Failure}

theorem append_right (h : StopsAt fault xs kept i e) (ys : List ι) :
    StopsAt fault (xs ++ ys) kept i e :=
  ⟨h.begins.trans (List.prefix_append xs ys), h.kept_fine, h.fault_eq⟩

theorem append_left (hxs : ∀ x ∈ xs, fault x = none) (h : StopsAt fault ys kept i e) :
    StopsAt fault (xs ++ ys) (xs ++ kept) i e where
  begins := by
    rw [List.append_assoc]
    exact (List.prefix_append_right_inj xs).mpr h.begins
  kept_fine k hk := by
    rcases List.mem_append.mp hk with hk | hk
    · exact hxs k hk
    · exact h.kept_fine k hk
  fault_eq := h.fault_eq

theorem single (h : fault i = some e) : StopsAt fault [i] [] i e :=
  ⟨List.prefix_rfl, by simp, h⟩

end StopsAt

namespace Agenda

/-- Started after some steps, a computation performs others in order and answers, or it stops at the
first of these that is at fault. -/
def Performs (A : Agenda σ ι) (call : Call σ α) (done todo : List ι) (post : α → Prop) : Prop :=
  Call.Triple (A.after done) call
    (fun a s ↦ (∀ i ∈ todo, A.fault i = none) ∧ post a ∧ A.after (done ++ todo) s)
    (fun e s ↦ ∃ kept i, StopsAt A.fault todo kept i e ∧ A.stopped (done ++ (kept ++ [i])) s)

variable {A : Agenda σ ι} {xs ys done todo : List ι}

namespace Performs

variable {call : Call σ α} {k : α → Call σ β} {post post' mid : α → Prop} {last : β → Prop}

theorem pure {a : α} (h : post a) : A.Performs (Pure.pure a : Call σ α) done [] post := by
  intro s hs
  refine ⟨by simp, h, ?_⟩
  rwa [List.append_nil]

theorem mono (h : A.Performs call done todo post) (hpost : ∀ a, post a → post' a) :
    A.Performs call done todo post' :=
  h.imp (fun _ hs ↦ hs) (fun a _ ⟨hfine, ha, hs⟩ ↦ ⟨hfine, hpost a ha, hs⟩) fun _ _ he ↦ he

/-- What follows a computation performs the steps that come next. -/
theorem bind (hx : A.Performs call done xs mid)
    (hk : ∀ a, mid a → (∀ x ∈ xs, A.fault x = none) → A.Performs (k a) (done ++ xs) ys last) :
    A.Performs (call >>= k) done (xs ++ ys) last := by
  have hfirst : Call.Triple (A.after done) call
      (fun a s ↦ (∀ x ∈ xs, A.fault x = none) ∧ mid a ∧ A.after (done ++ xs) s)
      (fun e s ↦ ∃ kept i, StopsAt A.fault (xs ++ ys) kept i e ∧
        A.stopped (done ++ (kept ++ [i])) s) := by
    refine hx.imp (fun _ hs ↦ hs) (fun _ _ ha ↦ ha) ?_
    rintro e s ⟨kept, i, hstop, hs⟩
    exact ⟨kept, i, hstop.append_right ys, hs⟩
  refine hfirst.bind ?_
  rintro a s ⟨hxs, ha, hs⟩
  refine (hk a ha hxs).imp (fun _ hs ↦ hs) ?_ ?_ s hs
  · rintro b t ⟨hys, hb, ht⟩
    refine ⟨fun i hi ↦ ?_, hb, by rwa [← List.append_assoc]⟩
    rcases List.mem_append.mp hi with hi | hi
    · exact hxs i hi
    · exact hys i hi
  · rintro e t ⟨kept, i, hstop, ht⟩
    refine ⟨xs ++ kept, i, hstop.append_left hxs, ?_⟩
    rwa [List.append_assoc xs, ← List.append_assoc done]

/-- What follows a computation may perform nothing. -/
theorem bind_nothing (hx : A.Performs call done xs mid)
    (hk : ∀ a, mid a → A.Performs (k a) (done ++ xs) [] last) :
    A.Performs (call >>= k) done xs last := by
  have h := hx.bind fun a ha _ ↦ hk a ha
  rwa [List.append_nil] at h

/-- A computation may perform nothing before another one. -/
theorem nothing_bind (hx : A.Performs call done [] mid)
    (hk : ∀ a, mid a → A.Performs (k a) done ys last) : A.Performs (call >>= k) done ys last := by
  refine hx.bind fun a ha _ ↦ ?_
  rw [List.append_nil]
  exact hk a ha

theorem map {f : α → β} (h : A.Performs call done todo fun a ↦ last (f a)) :
    A.Performs (f <$> call) done todo last :=
  h.bind_nothing fun _ ha ↦ .pure ha

/-- What a computation answers may be known apart from what it performs. -/
theorem and_ends (h : A.Performs call done todo post)
    (hends : Call.Ends call post' fun _ ↦ True) :
    A.Performs call done todo (fun a ↦ post a ∧ post' a) :=
  (hends.and_triple h).imp (fun _ hs ↦ hs)
    (fun _ _ ⟨ha', hfine, ha, hs⟩ ↦ ⟨hfine, ⟨ha, ha'⟩, hs⟩) fun _ _ he ↦ he.2

/-- Each of several computations performs its own steps. -/
theorem mapM {f : β → Call σ α} {stepsOf : β → List ι} {post : β → α → Prop} {bs : List β}
    (h : ∀ b ∈ bs, ∀ done, A.Performs (f b) done (stepsOf b) (post b)) :
    A.Performs (bs.mapM f) done (bs.flatMap stepsOf) (List.Forall₂ post bs) := by
  induction bs generalizing done with
  | nil => exact .pure .nil
  | cons b bs ih =>
    rw [List.mapM_cons, List.flatMap_cons]
    refine (h b List.mem_cons_self done).bind fun a ha _ ↦ ?_
    refine (ih fun c hc ↦ h c (List.mem_cons_of_mem _ hc)).bind_nothing fun as has ↦ ?_
    exact .pure (.cons ha has)

/-- Several computations may perform nothing. -/
theorem forM {f : β → Call σ Unit} {bs : List β}
    (h : ∀ b ∈ bs, A.Performs (f b) done [] (fun _ ↦ True)) :
    A.Performs (bs.forM f) done [] (fun _ ↦ True) := by
  induction bs with
  | nil => exact .pure trivial
  | cons b bs ih =>
    change A.Performs (f b >>= fun _ ↦ bs.forM f) _ _ _
    exact (h b List.mem_cons_self).nothing_bind fun _ _ ↦
      ih fun c hc ↦ h c (List.mem_cons_of_mem _ hc)

end Performs

/-! ## Parts of a state -/

/-- An agenda for a part of the state, while the rest of it keeps a property. -/
def within (A : Agenda τ ι) (part : σ → τ) (kept : σ → Prop) : Agenda σ ι where
  fault := A.fault
  after steps s := kept s ∧ A.after steps (part s)
  stopped steps s := A.stopped steps (part s)

section Within

variable {A : Agenda τ ι} {part : σ → τ} {kept : σ → Prop} {post : α → Prop}

/-- What is performed on the part is performed there. -/
theorem Performs.zoom {call : Call τ α} (h : A.Performs call done todo post)
    {split : σ → τ × (τ → σ)} (hpart : ∀ s, (split s).1 = part s)
    (hrebuild : ∀ s t, part ((split s).2 t) = t)
    (hkept : ∀ s t, kept s → kept ((split s).2 t)) :
    (A.within part kept).Performs (Call.zoom split call) done todo post := by
  refine (Call.Triple.zoom_part h hpart hrebuild hkept).imp (fun _ hs ↦ hs) ?_ ?_
  · rintro a s ⟨hs, hfine, ha, hafter⟩
    exact ⟨hfine, ha, hs, hafter⟩
  · rintro e s ⟨-, before, i, hstop, hstopped⟩
    exact ⟨before, i, hstop, hstopped⟩

/-- What leaves the part alone performs no step. -/
theorem Performs.aside {call : Call σ α}
    (h : ∀ s, kept s → ∃ a t, call s = (.ok a, t) ∧ post a ∧ kept t ∧ part t = part s) :
    (A.within part kept).Performs call done [] post := by
  rintro s ⟨hs, hafter⟩
  obtain ⟨a, t, hc, ha, ht, hpart⟩ := h s hs
  rw [hc]
  refine ⟨by simp, ha, ht, ?_⟩
  rwa [List.append_nil, hpart]

end Within

/-! ## Traces -/

/-- A computation begins the steps of a list in order, up to the first that is at fault, which it
fails with.  It leaves the traces of these steps; if none is at fault, it may still fail after the
last one, unless it `answers`. -/
def Traces (A : Agenda σ ι) (answers : Prop) (call : Call σ α) (done todo : List ι) : Prop :=
  ∀ s, A.after done s →
    ((∀ i ∈ todo, A.fault i = none) ∧ A.stopped (done ++ todo) (call s).2 ∧
        (answers → ∃ a, (call s).1 = .ok a)) ∨
      ∃ kept i e, StopsAt A.fault todo kept i e ∧ (call s).1 = .error e ∧
        A.stopped (done ++ (kept ++ [i])) (call s).2

variable {answers : Prop}

theorem Traces.of_kept {call : Call σ α}
    (h : ∀ s, A.after done s → A.stopped done (call s).2 ∧ (answers → ∃ a, (call s).1 = .ok a)) :
    A.Traces answers call done [] := by
  intro s hs
  obtain ⟨hstopped, hanswers⟩ := h s hs
  refine .inl ⟨by simp, ?_, hanswers⟩
  rwa [List.append_nil]

/-- The traces are not lost by what follows and leaves them alone. -/
theorem Traces.bind_kept {call : Call σ α} {k : α → Call σ β} (h : A.Traces answers call done todo)
    (hk : ∀ steps a s, A.stopped steps s → A.stopped steps (k a s).2) :
    A.Traces False (call >>= k) done todo := by
  intro s hs
  have hcall := h s hs
  rw [Call.bind_apply]
  cases hc : call s with
  | mk result t =>
    rw [hc] at hcall
    cases result with
    | ok a =>
      rcases hcall with ⟨hfine, hstopped, -⟩ | ⟨_, _, _, -, herror, -⟩
      · exact .inl ⟨hfine, hk _ a t hstopped, False.elim⟩
      · exact nomatch herror
    | error e =>
      rcases hcall with ⟨hfine, hstopped, -⟩ | ⟨kept, i, e', hstop, herror, hstopped⟩
      · exact .inl ⟨hfine, hstopped, False.elim⟩
      · obtain rfl := Except.error.inj herror
        exact .inr ⟨kept, i, e, hstop, rfl, hstopped⟩

/-- What follows a computation leaves the traces of the steps that come next. -/
theorem Performs.bind_traces {call : Call σ α} {k : α → Call σ β} {mid : α → Prop}
    (hx : A.Performs call done xs mid)
    (hk : ∀ a, mid a → A.Traces answers (k a) (done ++ xs) ys) :
    A.Traces answers (call >>= k) done (xs ++ ys) := by
  intro s hs
  have hperforms := hx s hs
  rw [Call.bind_apply]
  cases hc : call s with
  | mk result t =>
    rw [hc] at hperforms
    cases result with
    | ok a =>
      obtain ⟨hxs, ha, ht⟩ := hperforms
      rcases hk a ha t ht with ⟨hys, hstopped, hanswers⟩ | ⟨kept, i, e, hstop, herror, hstopped⟩
      · refine .inl ⟨fun i hi ↦ ?_, by rwa [← List.append_assoc], hanswers⟩
        rcases List.mem_append.mp hi with hi | hi
        · exact hxs i hi
        · exact hys i hi
      · refine .inr ⟨xs ++ kept, i, e, hstop.append_left hxs, herror, ?_⟩
        rwa [List.append_assoc xs, ← List.append_assoc done]
    | error e =>
      obtain ⟨kept, i, hstop, hstopped⟩ := hperforms
      exact .inr ⟨kept, i, e, hstop.append_right ys, rfl, hstopped⟩

theorem Performs.bind_traces_nothing {call : Call σ α} {k : α → Call σ β} {mid : α → Prop}
    (hx : A.Performs call done xs mid) (hk : ∀ a, mid a → A.Traces answers (k a) (done ++ xs) []) :
    A.Traces answers (call >>= k) done xs := by
  have h := hx.bind_traces hk
  rwa [List.append_nil] at h

theorem Performs.nothing_bind_traces {call : Call σ α} {k : α → Call σ β} {mid : α → Prop}
    (hx : A.Performs call done [] mid) (hk : ∀ a, mid a → A.Traces answers (k a) done ys) :
    A.Traces answers (call >>= k) done ys := by
  refine hx.bind_traces fun a ha ↦ ?_
  rw [List.append_nil]
  exact hk a ha

end Agenda

end Loadout
