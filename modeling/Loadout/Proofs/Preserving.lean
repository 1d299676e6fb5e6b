import Loadout.Proofs.Outcome

/-!
# Computations that preserve something

What holds of a state before a computation may hold of it afterwards, whether the computation
answers or fails.  There is one rule for each way in which computations are put together; a
computation on a part of the state preserves what it preserves of that part, `Preserves.zoom`, and
all that does not depend on it, `Preserves.zoom_apart`.
-/

namespace Loadout.Call

variable {τ σ α β : Type}

/-- What holds of the state before a computation holds of it afterwards, also after a failure. -/
def Preserves (invariant : τ → Prop) (call : Call τ α) : Prop :=
  Triple invariant call (fun _ ↦ invariant) (fun _ ↦ invariant)

namespace Preserves

variable {invariant : τ → Prop} {call : Call τ α} {k : α → Call τ β} {f : β → Call τ α}
variable {post : α → Prop} {xs : List β} {split : σ → τ × (τ → σ)}

/-- It does not matter whether the computation answers or fails. -/
theorem iff_snd : Preserves invariant call ↔ ∀ s, invariant s → invariant (call s).2 := by
  refine forall₂_congr fun s _ ↦ ?_
  cases call s with
  | mk result t => cases result <;> rfl

theorem and {other : τ → Prop} (h : Preserves invariant call) (h' : Preserves other call) :
    Preserves (fun s ↦ invariant s ∧ other s) call :=
  iff_snd.mpr fun s hs ↦ ⟨iff_snd.mp h s hs.1, iff_snd.mp h' s hs.2⟩

theorem or {other : τ → Prop} (h : Preserves invariant call) (h' : Preserves other call) :
    Preserves (fun s ↦ invariant s ∨ other s) call :=
  iff_snd.mpr fun s hs ↦ hs.imp (iff_snd.mp h s) (iff_snd.mp h' s)

theorem pure (a : α) : Preserves invariant (Pure.pure a) :=
  Triple.pure fun _ hs ↦ hs

theorem ofExcept (result : Except Failure α) : Preserves invariant (Call.ofExcept result) :=
  iff_snd.mpr fun _ hs ↦ hs

/-- A part of the state that is left as it is stays what it was. -/
theorem of_kept {part : τ → β} (h : ∀ s, part (call s).2 = part s) (b : β) :
    Preserves (part · = b) call :=
  iff_snd.mpr fun s hs ↦ (h s).trans hs

theorem bind (hx : Preserves invariant call) (hk : ∀ a, Preserves invariant (k a)) :
    Preserves invariant (call >>= k) :=
  Triple.bind hx hk

/-- What follows needs to preserve something only after what can be answered. -/
theorem bind_of (hx : Preserves invariant call) (hpost : Ends call post fun _ ↦ True)
    (hk : ∀ a, post a → Preserves invariant (k a)) : Preserves invariant (call >>= k) := by
  have hboth : Triple invariant call (fun a s ↦ post a ∧ invariant s) (fun _ ↦ invariant) :=
    (hpost.and_triple hx).imp (fun _ hs ↦ hs) (fun _ _ ha ↦ ha) fun _ _ he ↦ he.2
  exact hboth.bind fun a ↦ .of_fact (hk a)

theorem map {f : α → β} (h : Preserves invariant call) : Preserves invariant (f <$> call) :=
  h.bind fun a ↦ .pure (f a)

theorem mapM (h : ∀ b ∈ xs, Preserves invariant (f b)) : Preserves invariant (xs.mapM f) := by
  induction xs with
  | nil => exact .pure []
  | cons b xs ih =>
    rw [List.mapM_cons]
    refine (h b List.mem_cons_self).bind fun a ↦ ?_
    exact (ih fun c hc ↦ h c (List.mem_cons_of_mem _ hc)).bind fun as ↦ .pure (a :: as)

theorem forM {f : β → Call τ Unit} (h : ∀ b ∈ xs, Preserves invariant (f b)) :
    Preserves invariant (xs.forM f) :=
  Triple.forM h

/-- A computation on a part of the state preserves what it preserves of that part. -/
theorem zoom {part : σ → τ} (h : Preserves invariant call) (hpart : ∀ s, (split s).1 = part s)
    (hrebuild : ∀ s t, part ((split s).2 t) = t) :
    Preserves (invariant ∘ part) (Call.zoom split call) := by
  refine iff_snd.mpr fun s hs ↦ ?_
  change invariant (part ((split s).2 (call (split s).1).2))
  rw [hrebuild, hpart]
  exact iff_snd.mp h (part s) hs

/-- A computation on a part of the state preserves whatever does not depend on that part. -/
theorem zoom_apart {rest : σ → Prop} (call : Call τ α)
    (hrest : ∀ s t, rest s → rest ((split s).2 t)) : Preserves rest (Call.zoom split call) :=
  iff_snd.mpr fun s hs ↦ hrest s _ hs

end Preserves

end Loadout.Call
