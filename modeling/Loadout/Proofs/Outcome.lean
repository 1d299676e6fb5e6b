import Loadout.Selection.Basic
import Mathlib.Data.List.Forall2

/-!
# Outcomes of computations

A computation answers or fails, and leaves a state either way.  `Call.Triple` speaks of all of
this; `Call.Ends` forgets the states, which is enough for a solver: what it finds does not depend on
the world that it runs in.  A class of failures is carried along everywhere.  If it is empty, the
computation answers; if it holds all failures, nothing is said about whether it does.  Of a result
that depends on no state, `Yields` says that it is an answer with some property.
-/

namespace Loadout

theorem eq_map_of_forall₂ {α β : Type} {f : α → β} {xs : List α} {ys : List β}
    (h : List.Forall₂ (fun a b ↦ b = f a) xs ys) : ys = xs.map f := by
  induction h with
  | nil => rfl
  | cons hb _ ih => rw [hb, ih, List.map_cons]

theorem forall_mem_of_forall₂ {α β : Type} {post : β → Prop} {xs : List α} {ys : List β}
    (h : List.Forall₂ (fun _ b ↦ post b) xs ys) : ∀ b ∈ ys, post b := by
  induction h with
  | nil => simp
  | cons hb _ ih => exact List.forall_mem_cons.mpr ⟨hb, ih⟩

/-- Results are collected if all of them are known. -/
theorem mapM_eq_pure_of_forall₂ {m : Type → Type} [Monad m] [LawfulMonad m] {α β : Type}
    {f : α → m β} {xs : List α} {ys : List β} (h : List.Forall₂ (fun x y ↦ f x = pure y) xs ys) :
    xs.mapM f = pure ys := by
  induction h with
  | nil => rfl
  | cons hx _ ih => rw [List.mapM_cons, hx, pure_bind, ih, pure_bind]

theorem mapM_eq_pure {m : Type → Type} [Monad m] [LawfulMonad m] {α β : Type} {f : α → m β}
    {g : α → β} {xs : List α} (h : ∀ a ∈ xs, f a = pure (g a)) : xs.mapM f = pure (xs.map g) :=
  mapM_eq_pure_of_forall₂ (List.forall₂_map_right_iff.mpr (List.forall₂_same.mpr h))

theorem forall₂_of_mapM_eq_ok {α β : Type} {f : α → Except Failure β} {xs : List α} {ys : List β}
    (h : xs.mapM f = .ok ys) : List.Forall₂ (fun x y ↦ f x = .ok y) xs ys := by
  induction xs generalizing ys with
  | nil =>
    obtain rfl := Except.ok.inj h
    exact .nil
  | cons x xs ih =>
    rw [List.mapM_cons] at h
    cases hx : f x with
    | error e =>
      rw [hx] at h
      exact nomatch h
    | ok y =>
      cases hxs : xs.mapM f with
      | error e =>
        rw [hx, hxs] at h
        exact nomatch h
      | ok zs =>
        rw [hx, hxs] at h
        obtain rfl := Except.ok.inj h
        exact .cons hx (ih hxs)

/-! ## Results -/

/-- A result is an answer with a property. -/
def Yields {α : Type} (result : Except Failure α) (post : α → Prop) : Prop :=
  ∃ a, result = .ok a ∧ post a

namespace Yields

variable {α β : Type} {result : Except Failure α} {k : α → Except Failure β}
variable {post post' : α → Prop} {last : β → Prop}

theorem pure {a : α} (h : post a) : Yields (Pure.pure a) post :=
  ⟨a, rfl, h⟩

theorem bind (hx : Yields result post) (hk : ∀ a, post a → Yields (k a) last) :
    Yields (result >>= k) last := by
  obtain ⟨a, rfl, ha⟩ := hx
  exact hk a ha

theorem mono (h : Yields result post) (hpost : ∀ a, post a → post' a) : Yields result post' := by
  obtain ⟨a, ha, h⟩ := h
  exact ⟨a, ha, hpost a h⟩

end Yields

/-! ## Computations -/

namespace Call

variable {τ σ α β : Type}

/-- Started where `pre` holds, a computation answers and `post` holds of the answer and the state
that it leaves, or it fails and `fails` holds of the failure and that state. -/
def Triple (pre : τ → Prop) (call : Call τ α) (post : α → τ → Prop)
    (fails : Failure → τ → Prop) : Prop :=
  ∀ s, pre s → match call s with
    | (.ok a, t) => post a t
    | (.error e, t) => fails e t

/-- Wherever it is started, a computation answers something with the property `post`, or it fails in
one of the ways `fails`. -/
def Ends (call : Call τ α) (post : α → Prop) (fails : Failure → Prop) : Prop :=
  Triple (fun _ ↦ True) call (fun a _ ↦ post a) (fun e _ ↦ fails e)

namespace Triple

variable {pre pre' : τ → Prop} {call : Call τ α} {k : α → Call τ β} {post post' : α → τ → Prop}
variable {mid : α → τ → Prop} {last : β → τ → Prop} {fails fails' : Failure → τ → Prop}

theorem pure {a : α} (h : ∀ s, pre s → post a s) : Triple pre (Pure.pure a) post fails :=
  fun s hs ↦ h s hs

theorem bind (hx : Triple pre call mid fails) (hk : ∀ a, Triple (mid a) (k a) last fails) :
    Triple pre (call >>= k) last fails := by
  intro s hs
  have h := hx s hs
  rw [bind_apply]
  cases hc : call s with
  | mk result t =>
    rw [hc] at h
    cases result with
    | ok a => exact hk a t h
    | error e => exact h

theorem imp (h : Triple pre call post fails) (hpre : ∀ s, pre' s → pre s)
    (hpost : ∀ a s, post a s → post' a s) (hfails : ∀ e s, fails e s → fails' e s) :
    Triple pre' call post' fails' := by
  intro s hs
  have h := h s (hpre s hs)
  cases hc : call s with
  | mk result t =>
    rw [hc] at h
    cases result with
    | ok a => exact hpost a t h
    | error e => exact hfails e t h

/-- What each of several steps keeps up is kept up by all of them. -/
theorem forM {f : β → Call τ Unit} {xs : List β}
    (h : ∀ b ∈ xs, Triple pre (f b) (fun _ ↦ pre) fails) :
    Triple pre (xs.forM f) (fun _ ↦ pre) fails := by
  induction xs with
  | nil => exact .pure fun _ hs ↦ hs
  | cons b xs ih =>
    change Triple pre (f b >>= fun _ ↦ xs.forM f) _ _
    exact (h b List.mem_cons_self).bind fun _ ↦ ih fun c hc ↦ h c (List.mem_cons_of_mem _ hc)

/-- What does not depend on the state may be assumed beforehand. -/
theorem of_fact {fact : Prop} (h : fact → Triple pre call post fails) :
    Triple (fun s ↦ fact ∧ pre s) call post fails :=
  fun s hs ↦ h hs.1 s hs.2

/-- A computation on a part of the state leaves alone what `rest` sees of the state, if putting
another part in place does. -/
theorem zoom {split : σ → τ × (τ → σ)} (rest : σ → Prop)
    (hrest : ∀ s t, rest s → rest ((split s).2 t)) {post : α → Prop} {fails : Failure → Prop}
    (h : Ends call post fails) :
    Triple rest (Call.zoom split call) (fun a s ↦ post a ∧ rest s) (fun e _ ↦ fails e) := by
  intro s hs
  have h := h (split s).1 trivial
  simp only [Call.zoom]
  cases hc : call (split s).1 with
  | mk result t =>
    rw [hc] at h
    cases result with
    | ok a => exact ⟨h, hrest s t hs⟩
    | error e => exact h

/-- A computation on a part of the state does there what it does on its own, and leaves alone what
`rest` sees of the state. -/
theorem zoom_part {split : σ → τ × (τ → σ)} {part : σ → τ} {rest : σ → Prop}
    (h : Triple pre call post fails) (hpart : ∀ s, (split s).1 = part s)
    (hrebuild : ∀ s t, part ((split s).2 t) = t) (hrest : ∀ s t, rest s → rest ((split s).2 t)) :
    Triple (fun s ↦ rest s ∧ pre (part s)) (Call.zoom split call)
      (fun a s ↦ rest s ∧ post a (part s)) (fun e s ↦ rest s ∧ fails e (part s)) := by
  rintro s ⟨hs, hpre⟩
  have h := h (part s) hpre
  simp only [Call.zoom, hpart]
  cases hc : call (part s) with
  | mk result t =>
    rw [hc] at h
    have hput := hrest s t hs
    cases result with
    | ok a =>
      refine ⟨hput, ?_⟩
      rwa [hrebuild]
    | error e =>
      refine ⟨hput, ?_⟩
      rwa [hrebuild]

end Triple

namespace Ends

variable {call : Call τ α} {k : α → Call τ β} {post post' : α → Prop} {last : β → Prop}
variable {fails fails' : Failure → Prop}

theorem pure {a : α} (h : post a) : Ends (Pure.pure a : Call τ α) post fails :=
  Triple.pure fun _ _ ↦ h

/-- Every computation answers or fails. -/
theorem anything (call : Call τ α) : Ends call (fun _ ↦ True) fun _ ↦ True := by
  intro s _
  split <;> trivial

theorem bind (hx : Ends call post fails) (hk : ∀ a, post a → Ends (k a) last fails) :
    Ends (call >>= k) last fails :=
  Triple.bind hx fun a s h ↦ hk a h s trivial

theorem imp (h : Ends call post fails) (hpost : ∀ a, post a → post' a)
    (hfails : ∀ e, fails e → fails' e) : Ends call post' fails' :=
  Triple.imp h (fun _ h ↦ h) (fun a _ ↦ hpost a) (fun e _ ↦ hfails e)

theorem mono (h : Ends call post fails) (hpost : ∀ a, post a → post' a) :
    Ends call post' fails :=
  h.imp hpost fun _ h ↦ h

/-- What a computation answers may be known apart from the states. -/
theorem and_triple {pre : τ → Prop} {posts : α → τ → Prop} {errors : Failure → τ → Prop}
    (h : Ends call post fails) (htriple : Triple pre call posts errors) :
    Triple pre call (fun a s ↦ post a ∧ posts a s) (fun e s ↦ fails e ∧ errors e s) := by
  intro s hs
  have hpost := h s trivial
  have hposts := htriple s hs
  cases hc : call s with
  | mk result t =>
    rw [hc] at hpost hposts
    cases result with
    | ok a => exact ⟨hpost, hposts⟩
    | error e => exact ⟨hpost, hposts⟩

theorem and (h : Ends call post fails) (h' : Ends call post' fails) :
    Ends call (fun a ↦ post a ∧ post' a) fails :=
  (h.and_triple h').imp (fun _ hs ↦ hs) (fun _ _ ha ↦ ha) fun _ _ he ↦ he.1

/-- A computation that never fails does not fail in any other way. -/
theorem of_total (h : Ends call post fun _ ↦ False) : Ends call post fails :=
  h.imp (fun _ h ↦ h) fun _ ↦ False.elim

theorem map {f : α → β} (h : Ends call (fun a ↦ last (f a)) fails) :
    Ends (f <$> call) last fails :=
  h.bind fun _ ha ↦ .pure ha

theorem zoom {split : σ → τ × (τ → σ)} (h : Ends call post fails) :
    Ends (Call.zoom split call) post fails :=
  (Triple.zoom (fun _ ↦ True) (fun _ _ h ↦ h) h).imp (fun _ h ↦ h) (fun _ _ h ↦ h.1)
    (fun _ _ h ↦ h)

theorem ofExcept {result : Except Failure α} (hok : ∀ a, result = .ok a → post a)
    (herror : ∀ e, result = .error e → fails e) :
    Ends (Call.ofExcept result : Call τ α) post fails := by
  intro s _
  cases result with
  | ok a => exact hok a rfl
  | error e => exact herror e rfl

/-- Answers are collected in order. -/
theorem mapM {f : α → Call τ β} {post : α → β → Prop} {xs : List α}
    (h : ∀ a ∈ xs, Ends (f a) (post a) fails) :
    Ends (xs.mapM f) (List.Forall₂ post xs) fails := by
  induction xs with
  | nil => exact .pure .nil
  | cons a xs ih =>
    rw [List.mapM_cons]
    refine (h a List.mem_cons_self).bind fun b hb ↦ ?_
    refine (ih fun a ha ↦ h a (List.mem_cons_of_mem _ ha)).bind fun bs hbs ↦ ?_
    exact .pure (.cons hb hbs)

/-- Answers that are known beforehand. -/
theorem mapM_eq {f : α → Call τ β} {g : α → β} {xs : List α}
    (h : ∀ a ∈ xs, Ends (f a) (· = g a) fails) : Ends (xs.mapM f) (· = xs.map g) fails :=
  (mapM h).mono fun _ ↦ eq_map_of_forall₂

theorem forM {f : α → Call τ Unit} {xs : List α}
    (h : ∀ a ∈ xs, Ends (f a) (fun _ ↦ True) fails) : Ends (xs.forM f) (fun _ ↦ True) fails :=
  Triple.forM h

end Ends

end Call

namespace Run

variable {τ α : Type} {fails : Failure → Prop}

theorem ends_ask {call : Call τ α} {post : α → Prop} (h : Call.Ends call post fails) :
    Call.Ends (Run.ask call) post fails :=
  h.zoom

theorem ends_write (f : Journal → Journal) :
    Call.Ends (Run.write f : Run τ Unit) (fun _ ↦ True) fails :=
  fun _ _ ↦ trivial

theorem ends_ofExcept {result : Except Failure α} {post : α → Prop}
    (hok : ∀ a, result = .ok a → post a) (herror : ∀ e, result = .error e → fails e) :
    Call.Ends (Run.ofExcept result : Run τ α) post fails :=
  Call.Ends.ofExcept hok herror

theorem ends_journalled {act : Run τ Unit} (h : Call.Ends act (fun _ ↦ True) fails) :
    Call.Ends (Run.journalled act) (fun _ ↦ True) fails := by
  have hread : Call.Ends (Run.journal : Run τ Journal) (fun _ ↦ True) fails := fun _ _ ↦ trivial
  refine hread.bind fun j _ ↦ ?_
  split
  · exact .pure trivial
  · exact h

end Run

/-- A table of rows that are still to be made can be laid out, or fails in an expected way. -/
def Tabulator.Ends {τ : Type} (tabulate : Tabulator) (heads : List String)
    (rows : Call τ (List (List String))) (fails : Failure → Prop) : Prop :=
  Call.Ends rows (fun rows ↦ ∀ e, tabulate heads rows = .error e → fails e) fails

namespace Tabulator

variable {τ : Type} {tabulate : Tabulator} {heads : List String}
variable {rows : Call τ (List (List String))} {fails : Failure → Prop}

/-- If every table can be laid out, it is enough that the rows can be made. -/
theorem Ends.of_total (htotal : ∀ heads rows, tabulate heads rows = .ok ())
    (hrows : Call.Ends rows (fun _ ↦ True) fails) : tabulate.Ends heads rows fails :=
  hrows.mono fun rows _ _ he ↦ nomatch (htotal heads rows).symm.trans he

theorem ends_write {made : List (List String)}
    (h : ∀ e, tabulate heads made = .error e → fails e) :
    Call.Ends (tabulate.write heads made : Run τ Unit) (fun _ ↦ True) fails :=
  Call.Ends.bind (Run.ends_ofExcept (fun _ _ ↦ trivial) h) fun _ _ ↦ Run.ends_write _

end Tabulator

end Loadout
