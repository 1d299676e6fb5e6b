import Loadout.Equipment
import Loadout.Proofs.Number.Exactness
import Loadout.Proofs.Outcome

/-!
# Numbers that are read as real ones

A finite number of any kind is read as a real number, unless it is too large.  Numbers that are equal
are read as equal real ones, `measure_congr`, and a number that is the value of a real one is read
exactly, `measure_exact`.  If two numbers are read exactly, and so are their sum and their product,
then these are what is calculated, `add_exact` and `mul_exact`.
-/

namespace Loadout

open Number (Exact Kept nearestReal)

variable {x y : Float} {q r : Rat} {n : Int}

/-! ## Real numbers -/

theorem Number.exact_ne_undefined (h : x.isNaN = false) : Exact.ofFloat x ≠ .undefined := by
  rw [exact_eq_valueOf]
  have h : x.toModel.unpack.isNaN = false := h
  cases hu : x.toModel.unpack with
  | notANumber =>
    rw [hu] at h
    cases h
  | infinity s => exact Exact.noConfusion
  | zero s =>
    rw [valueOf_zero]
    exact Exact.noConfusion
  | finite s m e hm =>
    rw [valueOf_finite]
    exact Exact.noConfusion

theorem Number.isNaN_of_exact (h : Exact.ofFloat x = .finite q) : x.isNaN = false := by
  change x.toModel.unpack.isNaN = false
  rcases unpack_cases h with ⟨s, hu, -⟩ | ⟨s, m, e, hm, hu, -⟩ <;> rw [hu] <;> rfl

theorem Number.isInf_of_exact (h : Exact.ofFloat x = .finite q) : x.isInf = false := by
  change x.toModel.unpack.isInf = false
  rcases unpack_cases h with ⟨s, hu, -⟩ | ⟨s, m, e, hm, hu, -⟩ <;> rw [hu] <;> rfl

/-- An exact value is that of a real number, or it is whole and rounded to it. -/
def Number.RoundsTo (p : Exact) (x : Float) : Prop :=
  p = .ofFloat x ∨ ∃ n : Int, p = .ofInt n ∧ x = nearestReal n

/-- One value is not rounded to two different ones. -/
theorem Number.RoundsTo.unique {p : Exact} (hx : RoundsTo p x) (hy : RoundsTo p y) :
    Exact.ofFloat x = .ofFloat y := by
  rcases hx with rfl | ⟨m, rfl, rfl⟩
  · rcases hy with hy | ⟨n, hn, rfl⟩
    · exact hy
    · exact hn.trans (nearestReal_exact ⟨x, hn⟩).symm
  · rcases hy with hm | ⟨n, hn, rfl⟩
    · exact (nearestReal_exact ⟨y, hm.symm⟩).trans hm
    · have hmn : (m : Rat) = n := Exact.finite.inj hn
      rw [Int.cast_inj.mp hmn]

theorem Number.RoundsTo.isNaN (h : RoundsTo (.finite q) x) : x.isNaN = false := by
  rcases h with h | ⟨n, -, rfl⟩
  · exact isNaN_of_exact h.symm
  · exact isNaN_nearestReal n

theorem Number.RoundsTo.exact_eq (h : RoundsTo (.finite q) x) (hq : Kept q) :
    Exact.ofFloat x = .finite q := by
  obtain ⟨y, hy⟩ := hq
  exact (h.unique (.inl hy.symm)).trans hy

/-! ## Quantities -/

namespace Quantity

variable {a b : Quantity}

theorem roundInt_eq_ok (h : roundInt n = .ok x) : x = nearestReal n := by
  simp only [roundInt] at h
  split at h
  · cases h
  · exact (Except.ok.inj h).symm

theorem roundInt_exact (h : Kept n) : roundInt n = .ok (nearestReal n) := by
  rw [roundInt, Number.isInf_of_exact (Number.nearestReal_exact h)]
  rfl

theorem roundsTo_toReal (h : a.toReal = .ok x) : Number.RoundsTo a.exact x := by
  cases a with
  | whole n | word n => exact .inr ⟨n, rfl, roundInt_eq_ok h⟩
  | real y | machine y => exact .inl (congrArg Exact.ofFloat (Except.ok.inj h))

/-- A number that is the value of a real one is not too large to be read. -/
theorem exists_toReal (ha : a.exact = .finite q) (h : Kept q) : ∃ x, a.toReal = .ok x := by
  cases a with
  | whole n | word n =>
    obtain rfl : (n : Rat) = q := Exact.finite.inj ha
    exact ⟨_, roundInt_exact h⟩
  | real y | machine y => exact ⟨y, rfl⟩

/-- Two numbers are compared as they are, or both are read as real ones. -/
theorem beside_eq (ha : a.toReal = .ok x) (hb : b.toReal = .ok y) :
    a.beside b = .ok (a.exact, b.exact) ∨ a.beside b = .ok (.ofFloat x, .ofFloat y) := by
  cases a with
  | machine z =>
    obtain rfl : z = x := Except.ok.inj ha
    refine .inr ?_
    rw [beside, hb]
    rfl
  | whole m =>
    cases b with
    | machine z =>
      obtain rfl : z = y := Except.ok.inj hb
      refine .inr ?_
      simp only [beside, ha]
      rfl
    | _ => exact .inl rfl
  | word m =>
    cases b with
    | machine z =>
      obtain rfl : z = y := Except.ok.inj hb
      refine .inr ?_
      simp only [beside, ha]
      rfl
    | real z =>
      obtain rfl : z = y := Except.ok.inj hb
      rw [roundInt_eq_ok ha]
      exact .inr rfl
    | _ => exact .inl rfl
  | real z =>
    obtain rfl : z = x := Except.ok.inj ha
    cases b with
    | machine w =>
      obtain rfl : w = y := Except.ok.inj hb
      exact .inr rfl
    | word n =>
      rw [roundInt_eq_ok hb]
      exact .inr rfl
    | _ => exact .inl rfl

/-- What comes of two numbers of which one is real is real. -/
theorem combine_toReal (onWhole : Int → Int → Int) (onReal : Float → Float → Float)
    (ha : a.toReal = .ok x) (hb : b = .real y ∨ b = .machine y) :
    combine onWhole onReal a b = .ok (.real (onReal x y)) ∨
      combine onWhole onReal a b = .ok (.machine (onReal x y)) := by
  have hmachine : a.toReal >>= (fun x ↦ pure (machine (onReal x y))) =
      .ok (machine (onReal x y)) := by
    rw [ha]
    rfl
  cases a with
  | whole n =>
    rcases hb with rfl | rfl
    · have hreal : roundInt n >>= (fun x ↦ pure (real (onReal x y))) = .ok (real (onReal x y)) := by
        rw [show roundInt n = .ok x from ha]
        rfl
      exact .inl hreal
    · exact .inr hmachine
  | real z =>
    obtain rfl : z = x := Except.ok.inj ha
    rcases hb with rfl | rfl
    · exact .inl rfl
    · exact .inr rfl
  | _ => rcases hb with rfl | rfl <;> exact .inr hmachine

end Quantity

namespace Value

variable {v w : Value}

/-- A value that is a finite number is read as one. -/
theorem exists_quantity (h : v.number? = some (.finite q)) :
    ∃ a, v.quantity? = some a ∧ a.exact = .finite q ∧ v.measure = a.toReal := by
  cases v with
  | truth b => exact ⟨.whole b.toInt, rfl, Option.some.inj h, rfl⟩
  | integer n => exact ⟨.whole n, rfl, Option.some.inj h, rfl⟩
  | word n => exact ⟨.word n, rfl, Option.some.inj h, rfl⟩
  | real x => exact ⟨.real x, rfl, Option.some.inj h, rfl⟩
  | machine x => exact ⟨.machine x, rfl, Option.some.inj h, rfl⟩
  | _ => cases h

theorem toReal_eq (hv : v.number? = some (.finite q)) (hx : v.measure = .ok x) :
    v.toReal = .ok (.real x) := by
  cases v with
  | real y => rw [toReal, Except.ok.inj hx]
  | truth b | integer n | word n | machine y =>
    change real <$> measure _ = _
    rw [hx]
    rfl
  | _ => cases hv

theorem measure_exact (hv : v.number? = some (.finite q)) (hq : Kept q) :
    ∃ x, v.measure = .ok x ∧ Exact.ofFloat x = .finite q := by
  obtain ⟨a, -, ha, hmeasure⟩ := exists_quantity hv
  obtain ⟨x, hx⟩ := a.exists_toReal ha hq
  exact ⟨x, hmeasure.trans hx, Number.RoundsTo.exact_eq (ha ▸ a.roundsTo_toReal hx) hq⟩

theorem meetInCells_numbers {a b : Quantity} (hv : v.quantity? = some a)
    (hw : w.quantity? = some b) : v.meetInCells w = false := by
  have hsingle {u : Value} {c : Quantity} (hu : u.quantity? = some c) :
      u.isArray = false ∧ u.isSequence = false := by
    cases u <;> first | exact ⟨rfl, rfl⟩ | cases hu
  obtain ⟨hvarray, hvsequence⟩ := hsingle hv
  obtain ⟨hwarray, hwsequence⟩ := hsingle hw
  rw [meetInCells, hvarray, hvsequence, hwarray, hwsequence, Bool.and_false]
  rfl

theorem agree_numbers {a b : Quantity} {p p' : Exact} (hv : v.quantity? = some a)
    (hw : w.quantity? = some b) (hbeside : a.beside b = .ok (p, p')) :
    v.agree w = .ok (p.agree p') := by
  have hnumbers : v.numbers? w = .ok (some (p, p')) := by
    simp only [numbers?, hv, hw, hbeside]
    rfl
  rw [agree, meetInCells_numbers hv hw, hnumbers]
  rfl

theorem alike_eq_agree (hv : v.number? = some (.finite q)) : v.alike w = v.agree w := by
  cases v with
  | truth b | integer n | word n | real x | machine x => simp only [alike]
  | _ => cases hv

/-- Finite numbers that are alike are read as equal real ones. -/
theorem measure_congr (hv : v.number? = some (.finite q)) (hw : w.number? = some (.finite r))
    (halike : v.alike w = .ok true) (hx : v.measure = .ok x) (hy : w.measure = .ok y) :
    Exact.ofFloat x = Exact.ofFloat y := by
  obtain ⟨a, ha, -, hmeasure⟩ := exists_quantity hv
  obtain ⟨b, hb, -, hmeasure'⟩ := exists_quantity hw
  rw [hmeasure] at hx
  rw [hmeasure'] at hy
  have hagree {p p' : Exact} (hbeside : a.beside b = .ok (p, p')) : p = p' := by
    rw [alike_eq_agree hv, agree_numbers ha hb hbeside] at halike
    have hagree : p.agree p' = true := Except.ok.inj halike
    simp only [Exact.agree, Bool.and_eq_true, decide_eq_true_eq] at hagree
    exact hagree.2
  rcases Quantity.beside_eq hx hy with hbeside | hbeside
  · have hround := Quantity.roundsTo_toReal hx
    rw [hagree hbeside] at hround
    exact hround.unique (Quantity.roundsTo_toReal hy)
  · exact hagree hbeside

/-! ## Sums and products -/

/-- A real number with an exact value, wherever it is kept. -/
def IsReal (v : Value) (q : Rat) : Prop :=
  ∃ x, (v = .real x ∨ v = .machine x) ∧ Exact.ofFloat x = .finite q

theorem IsReal.number?_eq (h : v.IsReal q) : v.number? = some (.finite q) := by
  obtain ⟨x, rfl | rfl, hx⟩ := h <;> exact congrArg some hx

theorem IsReal.exists_quantity (h : v.IsReal q) : ∃ b x, v.quantity? = some b ∧
    (b = .real x ∨ b = .machine x) ∧ Exact.ofFloat x = .finite q := by
  obtain ⟨x, rfl | rfl, hx⟩ := h
  · exact ⟨_, x, rfl, .inl rfl, hx⟩
  · exact ⟨_, x, rfl, .inr rfl, hx⟩

theorem combine_isReal {onWhole : Int → Int → Int} {onReal : Float → Float → Float} {a b : Quantity}
    (ha : a.toReal = .ok x) (hb : b = .real y ∨ b = .machine y)
    (hexact : Exact.ofFloat (onReal x y) = .finite q) :
    Yields (Quantity.toValue <$> a.combine onWhole onReal b) (IsReal · q) := by
  rcases Quantity.combine_toReal onWhole onReal ha hb with hc | hc
  · rw [hc]
    exact ⟨_, rfl, _, .inl rfl, hexact⟩
  · rw [hc]
    exact ⟨_, rfl, _, .inr rfl, hexact⟩

theorem mul_exact (hv : v.number? = some (.finite q)) (hq : Kept q) (hw : w.IsReal r)
    (hkept : Kept (q * r)) : Yields (v.mul w) (IsReal · (q * r)) := by
  obtain ⟨a, ha, -, hmeasure⟩ := exists_quantity hv
  obtain ⟨x, hx, hxq⟩ := measure_exact hv hq
  obtain ⟨b, y, hb, hreal, hyr⟩ := hw.exists_quantity
  simp only [mul, ha, hb]
  exact combine_isReal (hmeasure ▸ hx) hreal (Number.mul_exact hxq hyr hkept)

theorem add_exact (hv : v.number? = some (.finite q)) (hq : Kept q) (hw : w.IsReal r)
    (hkept : Kept (q + r)) : Yields (v.add w) (IsReal · (q + r)) := by
  obtain ⟨a, ha, -, hmeasure⟩ := exists_quantity hv
  obtain ⟨x, hx, hxq⟩ := measure_exact hv hq
  obtain ⟨b, y, hb, hreal, hyr⟩ := hw.exists_quantity
  rw [add, meetInCells_numbers ha hb]
  simp only [Bool.false_eq_true, if_false, addSingle, ha, hb]
  exact combine_isReal (hmeasure ▸ hx) hreal (Number.add_exact hxq hyr hkept)

end Value

/-! ## Bonuses -/

/-- A number that is not too large is read, and nothing else is done. -/
theorem Equipment.readBonus_eq {v : Value} (hv : v.number? = some (.finite q))
    (hx : v.measure = .ok x) : readBonus v = pure (.real x) := by
  obtain ⟨a, -, ha, hmeasure⟩ := Value.exists_quantity hv
  have hnan : x.isNaN = false := (ha ▸ a.roundsTo_toReal (hmeasure ▸ hx)).isNaN
  rw [readBonus, Value.toReal_eq hv hx]
  change (if x.isNaN = true then _ else _) = _
  rw [hnan]
  rfl

end Loadout
