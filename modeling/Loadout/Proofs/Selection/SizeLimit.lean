import Loadout.Settings

/-!
# Whole numbers as limits

A whole number in the settings is a limit for the sizes of components, `SizeLimit.ofValue_integer`.
As long as it does not have too many digits, every size can be compared with it, and it has a text if
it is exceeded, `SizeLimit.Decides.ofInt`.  With too many digits it is still a limit if nothing
exceeds it, but a run that would have to warn of it fails, `SizeLimit.ofInt_eq_of_unwritable`.
-/

namespace Loadout

theorem Value.compare_gt_integers (a b : Int) :
    (Value.integer a).compare .gt (.integer b) = .ok (decide (b < a)) := by
  have hmeet : (integer a).meetInCells (integer b) = false := rfl
  have hnumbers : (integer a).numbers? (integer b) = .ok (some (.ofInt a, .ofInt b)) := rfl
  have hlt : (Number.Exact.ofInt b).lt (.ofInt a) = decide (b < a) :=
    decide_eq_decide.mpr Rat.intCast_lt_intCast
  rw [← hlt]
  simp [compare, hmeet, compareSingle, hnumbers, Comparison.onNumbers]
  rfl

namespace SizeLimit

variable {m : Int} {size : Nat}

theorem ofValue_integer (m : Int) : ofValue (.integer m) = ofInt m := by
  have h : ∀ size : Nat, (ofValue (.integer m)).exceededBy size = (ofInt m).exceededBy size := by
    intro size
    simp only [ofValue, ofInt, Value.compare_gt_integers, Value.wording, Value.shown]
    by_cases hlt : m < size
    · rw [decide_eq_true hlt, if_pos hlt]
      cases Value.digits m <;> rfl
    · rw [decide_eq_false hlt, if_neg hlt]
      rfl
  exact congrArg SizeLimit.mk (funext h)

theorem exceededBy_ofInt (hm : m.natAbs < Value.writtenBound) (size : Nat) :
    (ofInt m).exceededBy size = .ok (if m < size then some (Number.integerText m) else none) := by
  simp only [ofInt, Value.digits, if_pos hm]
  split <;> rfl

theorem ofInt_eq_of_writable (hm : m.natAbs < Value.writtenBound) :
    ofInt m = ⟨fun size ↦ .ok (if m < size then some (Number.integerText m) else none)⟩ :=
  congrArg SizeLimit.mk (funext (exceededBy_ofInt hm))

theorem exceededBy_ofInt_ne_error (hm : m.natAbs < Value.writtenBound) (size : Nat) (e : Failure) :
    (ofInt m).exceededBy size ≠ .error e := by
  rw [exceededBy_ofInt hm]
  exact nofun

theorem exceededBy_two_ne_error (size : Nat) (e : Failure) :
    (ofInt 2).exceededBy size ≠ .error e :=
  exceededBy_ofInt_ne_error (by decide +kernel) size e

/-- The text of a whole number as a limit is its digits, if it has one. -/
theorem eq_of_exceededBy_ofInt {text : Option String}
    (h : (ofInt m).exceededBy size = .ok text) :
    text = if m < size then some (Number.integerText m) else none := by
  by_cases hm : m.natAbs < Value.writtenBound
  · exact Except.ok.inj (h.symm.trans (exceededBy_ofInt hm size))
  · simp only [ofInt, Value.digits, if_neg hm] at h
    split at h
    · exact nomatch h
    next hsize => rw [if_neg hsize, ← Except.ok.inj h]

/-- A negative whole number with too many digits is exceeded by every size, but has no text. -/
theorem ofInt_eq_of_unwritable (hneg : m < 0) (hm : Value.writtenBound ≤ m.natAbs) :
    ofInt m = ⟨fun _ ↦ .error .tooLongToWrite⟩ := by
  have hexceeded : ∀ size : Nat, m < size := fun size ↦
    Int.lt_of_lt_of_le hneg (Int.natCast_nonneg size)
  simp only [ofInt, Value.digits, if_pos (hexceeded _), if_neg (Nat.not_lt.mpr hm)]
  rfl

/-- A limit that can be compared with every size, and has a text if a size exceeds it. -/
def Decides (limit : SizeLimit) : Prop :=
  ∀ n, ∃ text, limit.exceededBy n = .ok text

theorem Decides.ofInt (hm : m.natAbs < Value.writtenBound) : (SizeLimit.ofInt m).Decides :=
  fun n ↦ ⟨_, exceededBy_ofInt hm n⟩

end SizeLimit

end Loadout
