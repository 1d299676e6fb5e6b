import Loadout.Call
import Loadout.Journal.Basic

/-! # Runs

A solver runs in a world: the state of its caller and a journal.  Calls of the caller's functions
see and change the caller's state only, and nothing that is written to the journal is read back, so
whether a run is journalled has no bearing on what it finds.
-/

namespace Loadout

structure World (τ : Type) where
  journal : Journal
  caller : τ

/-- A computation in a world; what it has written stays written when it fails. -/
abbrev Run (τ : Type) := ExceptT Failure (StateM (World τ))

namespace Run

variable {τ α : Type}

/-- Ask the caller. -/
def ask (call : Call τ α) : Run τ α :=
  Call.zoom (fun ⟨journal, caller⟩ => (caller, fun caller => ⟨journal, caller⟩)) call

/-- Write to the journal. -/
def write (f : Journal → Journal) : Run τ Unit :=
  fun w => (.ok (), { w with journal := f w.journal })

def journal : Run τ Journal :=
  fun w => (.ok w.journal, w)

/-- An outcome that is already known. -/
def ofExcept (result : Except Failure α) : Run τ α :=
  fun w => (result, w)

/-- Do something only if the journal is in use. -/
def journalled (act : Run τ Unit) : Run τ Unit := do
  if (← journal).disabled then pure () else act

/-- Run a computation in a section of its own, and note how it ended. -/
def executing (name : String) (act : Run τ α) : Run τ α := do
  write (.openSection ("Executing " ++ name))
  fun w =>
    match act w with
    | (.ok a, w) =>
      (.ok a, { w with journal := w.journal.note .info (name ++ " completed successfully") })
    | (.error e, w) =>
      (.error e,
        { w with journal := w.journal.note .info ("Error in " ++ name ++ ": " ++ e.message) })

end Run

end Loadout
