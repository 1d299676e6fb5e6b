import Loadout.Proofs.Outcome
import Loadout.Value.Buffer

/-!
# Storage in rows

Tables and nested lists hold their cells in rows, of which each may have another length.  A write
puts a cell in its place if there is such a place; otherwise it is refused as out of range and
leaves everything as it was.  `Storage` says this once for both.
-/

namespace Loadout

/-- Whether rows have a cell at a place. -/
def hasCell {δ : Type} (rows : List (List δ)) (i j : Nat) : Bool :=
  (rows[i]?).any (j < ·.length)

/-- Storage that holds its cells in rows. -/
structure Storage (β δ : Type) [Grid β] where
  ofRows : List (List δ) → β
  ofBool : Bool → δ
  /-- The failure of a write outside of rows of the given lengths. -/
  missing : List Nat → Nat → Nat → Failure
  put_eq (rows : List (List δ)) (i j : Nat) (b : Bool) :
    (Grid.put i j b : Call β Unit) (ofRows rows) =
      if hasCell rows i j then (.ok (), ofRows (rows.modify i (·.set j (ofBool b))))
      else (.error (missing (rows.map List.length) i j), ofRows rows)
  missing_family (lengths : List Nat) (i j : Nat) : (missing lengths i j).family = .index

/-- A cell of a list of lists is written if there is one at the place. -/
theorem Value.withCell_list (rows : List (List Value)) (i j : Nat) (x : Value) :
    (list (rows.map list)).withCell i j x =
      if hasCell rows i j then .ok (list ((rows.modify i (·.set j x)).map list))
      else .error (.outOfRange (if i < rows.length then "list assignment index"
        else "list index")) := by
  cases h : rows[i]? with
  | none =>
    have hi := Nat.not_lt.mpr (List.getElem?_eq_none_iff.mp h)
    have hitem : (list (rows.map list)).item i = .error (.outOfRange "list index") := by
      simp [item, hi]
    rw [withCell, hitem, hasCell, h, if_neg hi]
    rfl
  | some row =>
    obtain ⟨hi, -⟩ := List.getElem?_eq_some_iff.mp h
    have hitem : (list (rows.map list)).item i = .ok (list row) := by
      simp [item, h]
    have hset : (list (rows.map list)).withItem i (list (row.set j x)) =
        list ((rows.modify i (·.set j x)).map list) := by
      simp [withItem, List.modify_eq_set_getElem?, h, List.map_set]
    rw [withCell, hitem, hasCell, h, if_pos hi, ← hset]
    by_cases hj : j < row.length
    · simp [bind, Except.bind, assign, hj, pure, Except.pure]
    · simp [bind, Except.bind, assign, hj]

namespace Storage

/-- Tables in memory. -/
def table : Storage Table Bool where
  ofRows rows := (rows.map List.toArray).toArray
  ofBool b := b
  missing lengths i j :=
    match lengths[i]? with
    | some length => .outOfBounds j length
    | none => .outOfBounds i lengths.length
  put_eq rows i j b := by
    cases h : rows[i]? with
    | none =>
      have hi := Nat.not_lt.mpr (List.getElem?_eq_none_iff.mp h)
      simp [Grid.put, hasCell, hi]
    | some row =>
      obtain ⟨hi, rfl⟩ := List.getElem?_eq_some_iff.mp h
      by_cases hj : j < rows[i].length
      · simp [Grid.put, hasCell, hi, hj, List.modify_eq_set_getElem?, List.map_set]
      · simp [Grid.put, hasCell, hi, hj]
  missing_family lengths i j := by
    split <;> rfl

/-- Lists of lists of values. -/
def nested : Storage Value Value where
  ofRows rows := .list (rows.map .list)
  ofBool b := .truth b
  missing lengths i _ :=
    .outOfRange (if i < lengths.length then "list assignment index" else "list index")
  put_eq rows i j b := by
    simp only [Grid.put, Value.withCell_list, List.length_map]
    cases hasCell rows i j <;> rfl
  missing_family _ _ _ := rfl

end Storage

end Loadout
