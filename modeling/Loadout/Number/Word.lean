/-! # Machine words

A word is a whole number of sixty-four bits, one of them for the sign.  What does not fit is taken
modulo the number of words, so that a word that becomes too large starts again from the least one.
-/

namespace Loadout.Number

/-- Words are below this number, and not below its negative. -/
def wordBound : Nat := Nat.pow 2 63

/-- Whether a whole number is a word. -/
def isWord (n : Int) : Bool :=
  -(wordBound : Int) ≤ n && n < wordBound

/-- The word that a whole number becomes. -/
def wrapWord (n : Int) : Int :=
  n.bmod (2 * wordBound)

theorem isWord_iff {n : Int} : isWord n = true ↔ -(wordBound : Int) ≤ n ∧ n < wordBound := by
  simp [isWord]

/-- A word stays itself. -/
theorem wrapWord_of_isWord {n : Int} (h : isWord n = true) : wrapWord n = n := by
  rw [isWord_iff] at h
  unfold wrapWord
  apply Int.bmod_eq_of_le_mul_two <;> omega

theorem isWord_wrapWord (n : Int) : isWord (wrapWord n) = true := by
  have hpos : 0 < 2 * wordBound := by decide
  have hlow := Int.le_bmod (x := n) hpos
  have hhigh := Int.bmod_lt (x := n) hpos
  rw [isWord_iff]
  unfold wrapWord
  omega

end Loadout.Number
