/-! # Rounding a quotient

The quotient of two naturals rounded to the nearest whole number; a half goes to the even one.
-/

namespace Loadout.Number

def roundDiv (num den : Nat) : Nat :=
  let q := num / den
  let r := num % den
  if 2 * r < den then q
  else if den < 2 * r then q + 1
  else if q % 2 = 0 then q
  else q + 1

variable {num den : Nat}

/-- The rounded quotient is at most half a unit below the exact one … -/
theorem le_roundDiv (h : 0 < den) : 2 * num ≤ 2 * den * roundDiv num den + den := by
  have hq := Nat.div_add_mod num den
  have hr := Nat.mod_lt num h
  simp only [roundDiv, Nat.mul_assoc]
  split
  · omega
  · split
    · rw [Nat.mul_add]; omega
    · split
      · omega
      · rw [Nat.mul_add]; omega

/-- … and at most half a unit above it. -/
theorem roundDiv_le (h : 0 < den) : 2 * den * roundDiv num den ≤ 2 * num + den := by
  have hq := Nat.div_add_mod num den
  have hr := Nat.mod_lt num h
  simp only [roundDiv, Nat.mul_assoc]
  split
  · omega
  · split
    · rw [Nat.mul_add]; omega
    · split
      · omega
      · rw [Nat.mul_add]; omega

/-- Of two whole numbers that are equally near, the even one is taken. -/
theorem roundDiv_even_of_tie (h : 2 * (num % den) = den) : roundDiv num den % 2 = 0 := by
  simp only [roundDiv]
  split
  · omega
  · split
    · omega
    · split <;> omega

/-- A whole quotient is left alone. -/
theorem roundDiv_mul_self (h : 0 < den) (n : Nat) : roundDiv (n * den) den = n := by
  simp [roundDiv, Nat.mul_div_cancel _ h, h]

end Loadout.Number
