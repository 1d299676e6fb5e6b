import Loadout.Proofs.Preserving

/-!
# Runs and what is traced of them

What comes of a run for its caller is its `outcome`: what it answers, or how it fails, and the state
that the caller is left in, with all that the caller was asked.  Two runs are `Alike` if their
outcomes agree from every state, whatever is in the journals that they write to.  A part of a run
that writes to the journal only is `Quiet`, and may be left out.

The other way round, a disabled journal takes in nothing: a run that starts with a `Muted` journal
ends with the same transcript, also when it fails.
-/

namespace Loadout

/-! ## Computations that only answer -/

namespace Call

variable {τ α β : Type}

/-- A computation answers something with a property, and leaves the state as it is. -/
def Harmless (call : Call τ α) (post : α → Prop) : Prop :=
  ∀ s, ∃ a, call s = (.ok a, s) ∧ post a

namespace Harmless

variable {call : Call τ α} {k : α → Call τ β} {post : α → Prop} {last : β → Prop}

theorem pure {a : α} (h : post a) : Harmless (Pure.pure a : Call τ α) post :=
  fun _ ↦ ⟨a, rfl, h⟩

theorem ofExcept {result : Except Failure α} {a : α} (h : result = .ok a) (ha : post a) :
    Harmless (Call.ofExcept result : Call τ α) post :=
  fun _ ↦ ⟨a, by rw [h]; rfl, ha⟩

theorem mono {post' : α → Prop} (h : Harmless call post) (hpost : ∀ a, post a → post' a) :
    Harmless call post' := by
  intro s
  obtain ⟨a, hs, ha⟩ := h s
  exact ⟨a, hs, hpost a ha⟩

theorem bind (h : Harmless call post) (hk : ∀ a, post a → Harmless (k a) last) :
    Harmless (call >>= k) last := by
  intro s
  obtain ⟨a, hs, ha⟩ := h s
  rw [bind_apply, hs]
  exact hk a ha s

theorem map {f : α → β} (h : Harmless call fun a ↦ last (f a)) : Harmless (f <$> call) last :=
  h.bind fun _ ha ↦ .pure ha

theorem mapM {f : α → Call τ β} {post : α → β → Prop} {xs : List α}
    (h : ∀ a ∈ xs, Harmless (f a) (post a)) : Harmless (xs.mapM f) (List.Forall₂ post xs) := by
  induction xs with
  | nil => exact .pure .nil
  | cons a xs ih =>
    rw [List.mapM_cons]
    refine (h a List.mem_cons_self).bind fun b hb ↦ ?_
    refine (ih fun a ha ↦ h a (List.mem_cons_of_mem _ ha)).bind fun bs hbs ↦ ?_
    exact .pure (.cons hb hbs)

end Harmless

end Call

namespace Run

variable {τ α β : Type}

/-! ## Outcomes -/

/-- What comes of a run for its caller. -/
def outcome (act : Run τ α) (j : Journal) (s : τ) : Except Failure α × τ :=
  ((act ⟨j, s⟩).1, (act ⟨j, s⟩).2.caller)

section Outcome

variable {act act' : Run τ α} {k k' : α → Run τ β} {j j' : Journal} {s : τ}

@[simp] theorem outcome_ask (call : Call τ α) : outcome (ask call) j s = call s := rfl

@[simp] theorem outcome_write (f : Journal → Journal) :
    outcome (write f : Run τ Unit) j s = (.ok (), s) := rfl

@[simp] theorem outcome_ofExcept (result : Except Failure α) :
    outcome (ofExcept result : Run τ α) j s = (result, s) := rfl

theorem outcome_bind (act : Run τ α) (k : α → Run τ β) (j : Journal) (s : τ) :
    (act >>= k).outcome j s = match act ⟨j, s⟩ with
      | (.ok a, w) => (k a).outcome w.journal w.caller
      | (.error e, w) => (.error e, w.caller) := by
  rw [outcome, Call.bind_apply]
  cases act ⟨j, s⟩ with
  | mk result w => cases result <;> rfl

theorem outcome_ask_bind {call : Call τ α} {a : α} {t : τ} (h : call s = (.ok a, t))
    (k : α → Run τ β) : (ask call >>= k).outcome j s = (k a).outcome j t := by
  rw [outcome_bind]
  simp only [ask, Call.zoom, h]

theorem journalled_apply (act : Run τ Unit) (w : World τ) :
    journalled act w = if w.journal.disabled then (.ok (), w) else act w := by
  rw [journalled, Call.bind_apply]
  simp only [journal]
  split <;> rfl

/-- What is only written from a state on may be left out there. -/
theorem outcome_journalled_eq {act : Run τ Unit} (h : ∀ i, act.outcome i s = (.ok (), s)) :
    (journalled act).outcome j s = (journalled act).outcome j' s := by
  have heither : ∀ i, (journalled act).outcome i s = (.ok (), s) := by
    intro i
    rw [outcome, journalled_apply]
    split
    · rfl
    · exact h i
  rw [heither, heither]

/-- Two runs in two steps each have the same outcome, if the first steps have, and if the second
steps have wherever the first ones lead. -/
theorem outcome_bind_eq (h : act.outcome j s = act'.outcome j' s)
    (hk : ∀ a t, act.outcome j s = (.ok a, t) →
      ∀ i i', (k a).outcome i t = (k' a).outcome i' t) :
    (act >>= k).outcome j s = (act' >>= k').outcome j' s := by
  rw [outcome_bind, outcome_bind]
  rw [outcome, outcome] at h
  cases hx : act ⟨j, s⟩ with
  | mk result w =>
    cases hy : act' ⟨j', s⟩ with
    | mk result' w' =>
      rw [hx, hy] at h
      obtain ⟨i, t⟩ := w
      obtain ⟨i', t'⟩ := w'
      obtain ⟨rfl, rfl⟩ := Prod.mk.inj h
      cases result with
      | error e => rfl
      | ok a => exact hk a t (by rw [outcome, hx]) i i'

end Outcome

/-! ## Runs that only write -/

/-- A run answers something with a property, and has no bearing on the caller. -/
def Quiet (act : Run τ α) (post : α → Prop) : Prop :=
  ∀ j s, ∃ a, act.outcome j s = (.ok a, s) ∧ post a

namespace Quiet

variable {act : Run τ α} {k : α → Run τ β} {post : α → Prop} {last : β → Prop}

theorem pure {a : α} (h : post a) : Quiet (Pure.pure a : Run τ α) post :=
  fun _ _ ↦ ⟨a, rfl, h⟩

theorem write (f : Journal → Journal) : Quiet (Run.write f : Run τ Unit) fun _ ↦ True :=
  fun _ _ ↦ ⟨(), rfl, trivial⟩

theorem ask {call : Call τ α} (h : call.Harmless post) : Quiet (Run.ask call) post :=
  fun _ s ↦ h s

theorem ofExcept {result : Except Failure α} {a : α} (h : result = .ok a) (ha : post a) :
    Quiet (Run.ofExcept result : Run τ α) post :=
  fun _ _ ↦ ⟨a, by rw [outcome_ofExcept, h], ha⟩

theorem bind (h : Quiet act post) (hk : ∀ a, post a → Quiet (k a) last) :
    Quiet (act >>= k) last := by
  intro j s
  obtain ⟨a, hs, ha⟩ := h j s
  rw [outcome_bind]
  rw [outcome] at hs
  cases hx : act ⟨j, s⟩ with
  | mk result w =>
    rw [hx] at hs
    obtain ⟨rfl, rfl⟩ := Prod.mk.inj hs
    exact hk a ha w.journal w.caller

theorem journalled {act : Run τ Unit} (h : Quiet act fun _ ↦ True) :
    Quiet (Run.journalled act) fun _ ↦ True := by
  intro j s
  rw [outcome, journalled_apply]
  split
  · exact ⟨(), rfl, trivial⟩
  · exact h j s

end Quiet

/-! ## Runs that are alike -/

/-- Two runs have the same outcomes, whatever their journals hold. -/
def Alike (act act' : Run τ α) : Prop :=
  ∀ j j' s, act.outcome j s = act'.outcome j' s

namespace Alike

variable {act act' : Run τ α} {k k' : α → Run τ β}

theorem pure (a : α) : Alike (Pure.pure a : Run τ α) (Pure.pure a) :=
  fun _ _ _ ↦ rfl

theorem ask (call : Call τ α) : Alike (Run.ask call) (Run.ask call) :=
  fun _ _ _ ↦ rfl

theorem ofExcept (result : Except Failure α) :
    Alike (Run.ofExcept result : Run τ α) (Run.ofExcept result) :=
  fun _ _ _ ↦ rfl

theorem write (f f' : Journal → Journal) :
    Alike (Run.write f : Run τ Unit) (Run.write f') :=
  fun _ _ _ ↦ rfl

/-- What is only written may be left out. -/
theorem journalled {act : Run τ Unit} (h : Quiet act fun _ ↦ True) :
    Alike (Run.journalled act) (Run.journalled act) := by
  intro j j' s
  obtain ⟨_, hs, -⟩ := h.journalled j s
  obtain ⟨_, hs', -⟩ := h.journalled j' s
  exact hs.trans hs'.symm

theorem bind (h : Alike act act') (hk : ∀ a, Alike (k a) (k' a)) :
    Alike (act >>= k) (act' >>= k') :=
  fun j j' s ↦ outcome_bind_eq (h j j' s) fun a t _ i i' ↦ hk a i i' t

/-- The second steps need to be alike only for what the first steps can answer. -/
theorem bind_of {post : α → Prop} (h : Alike act act')
    (hpost : Call.Ends act post fun _ ↦ True) (hk : ∀ a, post a → Alike (k a) (k' a)) :
    Alike (act >>= k) (act' >>= k') := by
  refine fun j j' s ↦ outcome_bind_eq (h j j' s) fun a t ha i i' ↦ hk a ?_ i i' t
  have hends := hpost ⟨j, s⟩ trivial
  rw [outcome] at ha
  cases hx : act ⟨j, s⟩ with
  | mk result w =>
    rw [hx] at hends ha
    obtain ⟨rfl, -⟩ := Prod.mk.inj ha
    exact hends

/-- What is written beforehand has no bearing on the outcome. -/
theorem write_left (h : Alike act act') (f : Journal → Journal) :
    Alike (Run.write f >>= fun _ ↦ act) act' :=
  fun j j' s ↦ h (f j) j' s

theorem write_right (h : Alike act act') (f : Journal → Journal) :
    Alike act (Run.write f >>= fun _ ↦ act') :=
  fun j j' s ↦ h j (f j') s

theorem mapM {f f' : β → Run τ α} {xs : List β} (h : ∀ b ∈ xs, Alike (f b) (f' b)) :
    Alike (xs.mapM f) (xs.mapM f') := by
  induction xs with
  | nil => exact .pure []
  | cons b xs ih =>
    rw [List.mapM_cons, List.mapM_cons]
    refine (h b List.mem_cons_self).bind fun a ↦ ?_
    exact (ih fun c hc ↦ h c (List.mem_cons_of_mem _ hc)).bind fun as ↦ .pure (a :: as)

theorem forM {f f' : β → Run τ Unit} {xs : List β} (h : ∀ b ∈ xs, Alike (f b) (f' b)) :
    Alike (xs.forM f) (xs.forM f') := by
  induction xs with
  | nil => exact .pure ()
  | cons b xs ih =>
    change Alike (f b >>= fun _ ↦ xs.forM f) (f' b >>= fun _ ↦ xs.forM f')
    exact (h b List.mem_cons_self).bind fun _ ↦ ih fun c hc ↦ h c (List.mem_cons_of_mem _ hc)

end Alike

/-- A table that can be laid out is only written. -/
theorem outcome_write_table {tabulate : Tabulator} {heads : List String} {rows : List (List String)}
    (h : tabulate heads rows = .ok ()) (j : Journal) (s : τ) :
    (tabulate.write heads rows : Run τ Unit).outcome j s = (.ok (), s) := by
  rw [Tabulator.write, h]
  rfl

/-- A run in a section of its own comes to the same. -/
theorem outcome_executing (name : String) (act : Run τ α) (j : Journal) (s : τ) :
    (executing name act).outcome j s = act.outcome (j.openSection ("Executing " ++ name)) s := by
  rw [executing, outcome_bind]
  simp only [outcome, Run.write]
  cases act ⟨j.openSection ("Executing " ++ name), s⟩ with
  | mk result w => cases result <;> rfl

/-! ## Journals that are not in use -/

/-- A disabled journal with the given transcript. -/
def Muted (t : Transcript) (w : World τ) : Prop :=
  w.journal.disabled = true ∧ w.journal.transcript = t

section Muted

variable {t : Transcript}

theorem muted_ask (call : Call τ α) : Call.Preserves (Muted t) (ask call) := by
  intro w hw
  simp only [ask, Call.zoom]
  cases call w.caller with
  | mk result s => cases result <;> exact hw

theorem muted_ofExcept (result : Except Failure α) :
    Call.Preserves (Muted t) (ofExcept result : Run τ α) := by
  intro w hw
  cases result <;> exact hw

/-- Whatever is written is lost. -/
theorem muted_write (f : Journal → Journal) :
    Call.Preserves (Muted t) (write (Journal.unlessDisabled f) : Run τ Unit) := by
  intro w hw
  have heq : Journal.unlessDisabled f w.journal = w.journal := if_pos hw.1
  simp only [write, heq]
  exact hw

/-- A warning that is sent to the records directly is not in the transcript. -/
theorem muted_emit (severity : Severity) (message : String) :
    Call.Preserves (Muted t) (write (.emit severity message) : Run τ Unit) := by
  intro w hw
  simp only [write, Journal.emit]
  split
  · exact hw
  · exact hw

theorem muted_journalled (act : Run τ Unit) : Call.Preserves (Muted t) (journalled act) := by
  intro w hw
  rw [journalled_apply, hw.1]
  exact hw

theorem muted_executing (name : String) {act : Run τ α} (h : Call.Preserves (Muted t) act) :
    Call.Preserves (Muted t) (executing name act) := by
  have hnote : ∀ message (u : World τ), Muted t u →
      Muted t { u with journal := u.journal.note .info message } := fun message u ↦
    muted_write (fun j ↦ (j.emit .info message).append (.note .info message)) u
  refine (muted_write _).bind fun _ w hw ↦ ?_
  have hact := h w hw
  cases hx : act w with
  | mk result u =>
    rw [hx] at hact
    cases result with
    | ok a => exact hnote _ u hact
    | error e => exact hnote _ u hact

end Muted

end Run

end Loadout
