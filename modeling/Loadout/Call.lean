import Loadout.Failure

/-! # Calls of the caller's functions

A solver asks its caller whether two vertices conflict and what a vertex weighs.  The answer is a
computation of its own: it may fail, and it may change the state `τ` that the caller keeps, which
survives a failure.
-/

namespace Loadout

/-- A computation by the caller. -/
abbrev Call (τ : Type) := ExceptT Failure (StateM τ)

namespace Call

variable {τ σ α : Type}

/-- An outcome that is already known. -/
def ofExcept (result : Except Failure α) : Call τ α :=
  fun s => (result, s)

/-- A computation on one part of a larger state, which leaves the rest alone.  `split` takes the state
apart into that part and a way to put another one in its place. -/
def zoom (split : σ → τ × (τ → σ)) (call : Call τ α) : Call σ α :=
  fun s =>
    let (t, rebuild) := split s
    let (result, t) := call t
    (result, rebuild t)

variable {β : Type} (s : τ)

@[simp] theorem pure_apply (a : α) : (pure a : Call τ α) s = (.ok a, s) := rfl

@[simp] theorem throw_apply (e : Failure) : (throw e : Call τ α) s = (.error e, s) := rfl

@[simp] theorem ofExcept_apply (result : Except Failure α) : ofExcept result s = (result, s) := rfl

/-- What follows a computation starts in the state that the computation leaves, unless it fails. -/
theorem bind_apply (x : Call τ α) (k : α → Call τ β) :
    (x >>= k) s = match x s with
      | (.ok a, t) => k a t
      | (.error e, t) => (.error e, t) := by
  simp only [bind, ExceptT.bind, ExceptT.mk, ExceptT.bindCont, StateT.bind]
  cases x s with
  | mk result t => cases result <;> rfl

@[simp] theorem ofExcept_ok (a : α) : (ofExcept (.ok a) : Call τ α) = pure a := rfl

theorem zoom_pure {split : σ → τ × (τ → σ)} (h : ∀ s, (split s).2 (split s).1 = s) (a : α) :
    zoom split (pure a) = pure a := by
  funext s
  simp [zoom, h]

/-- Computations on a part follow one another as on the whole, if a part that was put in its place
is found there again. -/
theorem zoom_bind {split : σ → τ × (τ → σ)}
    (h : ∀ s t, split ((split s).2 t) = (t, (split s).2)) (x : Call τ α) (k : α → Call τ β) :
    zoom split (x >>= k) = zoom split x >>= fun a => zoom split (k a) := by
  funext s
  simp only [bind_apply, zoom]
  cases x (split s).1 with
  | mk result t => cases result <;> simp [h]

end Call

end Loadout
