import Loadout.Proofs.Number.Binary64
import Mathlib.Tactic.Linarith
import Mathlib.Tactic.Positivity
import Mathlib.Tactic.Ring

/-!
# Exact calculations with binary64 numbers

A calculation with binary64 numbers is exact where its result is the value of such a number: nothing
is rounded then.  This is so for a product, `mul_exact`, for a sum, `add_exact`, and for a whole
number that is read as a real one, `nearestReal_exact`.
-/

namespace Loadout.Number

open Float.Model
open Float.Model.UnpackedFloat (Sign ExtendedMantissa shiftToTargetExponent roundWithAccuracy
  decreaseExponent normalize)

variable {m n k : Nat} {e t : Int} {s : Sign} {x y : Float} {q r : Rat}

/-! ## Mantissas and exponents -/

theorem Canonical.target (h : Canonical m e) :
    Format.binary64.targetExponent (totalExponent m e) = e := by
  change max ((m.log2 : Int) + 1 + e - 53) (-1074) = e
  have hlow := h.low
  rcases h.normal with hm | rfl
  · have hlog : m.log2 = 52 := (Nat.log2_eq_iff (Nat.ne_of_gt h.pos)).mpr ⟨hm, h.lt⟩
    omega
  · have hlog : m.log2 < 53 := (Nat.log2_lt (Nat.ne_of_gt h.pos)).mpr h.lt
    omega

/-- The value of a kept number that is not zero has a canonical mantissa and exponent. -/
theorem Kept.exists_canonical (h : Kept (signed s * (m * 2 ^ e))) (hm : 0 < m) :
    ∃ m' e', Canonical m' e' ∧ (m' : Rat) * 2 ^ e' = m * 2 ^ e := by
  obtain ⟨x, hx⟩ := h
  have hpos : (0 : Rat) < m * 2 ^ e := by positivity
  rcases unpack_cases hx with ⟨s', -, hzero⟩ | ⟨s', m', e', hcanonical, -, heq⟩
  · cases s <;> simp only [signed] at hzero <;> linarith
  · have hpos' : (0 : Rat) < m' * 2 ^ e' := by
      have := hcanonical.pos
      positivity
    refine ⟨m', e', hcanonical, ?_⟩
    cases s <;> cases s' <;> simp only [signed] at heq <;> linarith

theorem eq_mul_two_pow (h : (m : Rat) * 2 ^ e = n * 2 ^ t) (hle : t ≤ e) :
    n = m * 2 ^ (e - t).toNat := by
  obtain ⟨j, hj⟩ := Int.eq_ofNat_of_zero_le (Int.sub_nonneg.mpr hle)
  obtain rfl : e = t + j := by omega
  have htwo : (2 : Rat) ^ t ≠ 0 := by positivity
  rw [zpow_add₀ two_ne_zero, zpow_natCast, mul_left_comm, mul_comm (n : Rat)] at h
  have hn := mul_left_cancel₀ htwo h
  rw [hj, Int.toNat_natCast]
  exact_mod_cast hn.symm

theorem log2_mul_two_pow (hm : 0 < m) (k : Nat) : (m * 2 ^ k).log2 = m.log2 + k := by
  induction k with
  | zero => simp
  | succ k ih =>
    have hpos : m * 2 ^ k ≠ 0 := by positivity
    rw [pow_succ, ← mul_assoc, mul_comm, Nat.log2_two_mul hpos, ih, Nat.add_assoc]

/-! ## Rounding -/

theorem shiftRight_exact (m k : Nat) :
    ((⟨m * 2 ^ k, false, false⟩ : ExtendedMantissa) >>> k) = ⟨m, false, false⟩ := by
  induction k generalizing m with
  | zero => rw [pow_zero, mul_one]; rfl
  | succ k ih =>
    change ((⟨m * 2 ^ (k + 1), false, false⟩ : ExtendedMantissa) >>> k).shiftRightOne = _
    rw [show m * 2 ^ (k + 1) = m * 2 * 2 ^ k by ring, ih]
    simp [ExtendedMantissa.shiftRightOne]

theorem Canonical.shift_eq (h : Canonical m e) (k : Nat) :
    shiftToTargetExponent .binary64 (m * 2 ^ k) (e - k) .exact = (⟨m, false, false⟩, e) := by
  have htotal : totalExponent (m * 2 ^ k) (e - k) = totalExponent m e := by
    rw [totalExponent, totalExponent, log2_mul_two_pow h.pos]
    omega
  have hamount : (e - (e - k)).toNat = k := by omega
  rw [shiftToTargetExponent, htotal, h.target, UnpackedFloat.shiftToExponent]
  simp only [hamount, UnpackedFloat.ExtendedMantissa.ofMantissaAndAccuracy, shiftRight_exact,
    sub_add_cancel]

/-- Rounding gives back the mantissa and the exponent that are kept. -/
theorem Canonical.round_eq (h : Canonical m e) (k : Nat) (s : Sign) :
    roundWithAccuracy .binary64 s (m * 2 ^ k) (e - k) .exact = .finite s m e h.pos := by
  have hrounded : ExtendedMantissa.roundedMantissa ⟨m, false, false⟩ = m := rfl
  have hagain : shiftToTargetExponent .binary64 m e .exact = (⟨m, false, false⟩, e) := by
    simpa using h.shift_eq 0
  unfold roundWithAccuracy
  rw [h.shift_eq]
  dsimp only
  rw [hrounded, hagain]
  exact dif_neg (Nat.ne_of_gt h.pos)

/-- A value that is kept is not rounded, if its mantissa has enough bits. -/
theorem roundWithAccuracy_exact (hm : 0 < m) (hlow : 52 ≤ m.log2 ∨ e ≤ -1074)
    (h : Kept (signed s * (m * 2 ^ e))) :
    ∃ m' e', ∃ hcanonical : Canonical m' e',
      roundWithAccuracy .binary64 s m e .exact = .finite s m' e' hcanonical.pos ∧
        (m' : Rat) * 2 ^ e' = m * 2 ^ e := by
  obtain ⟨m', e', hcanonical, hvalue⟩ := h.exists_canonical hm
  have hle : e ≤ e' := by
    by_contra hlt
    have hm' : m' = m * 2 ^ (e - e').toNat := eq_mul_two_pow hvalue.symm (by omega)
    obtain ⟨j, hj⟩ := Nat.exists_eq_succ_of_ne_zero (by omega : (e - e').toNat ≠ 0)
    rcases hlow with hlog | he
    · have hlarge : 2 ^ 52 ≤ m :=
        (Nat.pow_le_pow_right Nat.two_pos hlog).trans (Nat.log2_self_le (Nat.ne_of_gt hm))
      have hj : 2 ≤ 2 ^ (e - e').toNat := by
        rw [hj, pow_succ]
        have := Nat.one_le_two_pow (n := j)
        omega
      have hlt := hcanonical.lt
      have := Nat.mul_le_mul hlarge hj
      omega
    · have := hcanonical.low
      omega
  have hm' : m = m' * 2 ^ (e' - e).toNat := eq_mul_two_pow hvalue hle
  have he : e' - ((e' - e).toNat : Int) = e := by omega
  have hround := hcanonical.round_eq (e' - e).toNat s
  rw [← hm', he] at hround
  exact ⟨m', e', hcanonical, hround, hvalue⟩

/-! ## Numbers that are packed -/

/-- A number that stays the same when it is packed and unpacked again, and its value. -/
def Packs (u : UnpackedFloat) (q : Rat) : Prop :=
  (Float.Model.pack u).unpack = u ∧ valueOf u = .finite q

theorem packs_zero (s : Sign) : Packs (.zero s) 0 :=
  ⟨unpack_packedZero, valueOf_zero s⟩

theorem Canonical.packs (h : Canonical m e) (s : Sign) :
    Packs (.finite s m e h.pos) (signed s * (m * 2 ^ e)) :=
  ⟨unpack_pack h, valueOf_finite⟩

theorem Packs.exact_eq {u : UnpackedFloat} (h : Packs u q) :
    Exact.ofFloat (.ofModel (.pack u)) = .finite q := by
  rw [exact_eq_valueOf, h.1, h.2]

theorem packs_roundWithAccuracy (hm : 0 < m) (hlow : 52 ≤ m.log2 ∨ e ≤ -1074)
    (h : Kept (signed s * (m * 2 ^ e))) :
    Packs (roundWithAccuracy .binary64 s m e .exact) (signed s * (m * 2 ^ e)) := by
  obtain ⟨m', e', hcanonical, hround, hvalue⟩ := roundWithAccuracy_exact hm hlow h
  rw [hround, ← hvalue]
  exact hcanonical.packs s

theorem packs_round (hm : 0 < m) (h : Kept (signed s * (m * 2 ^ e))) :
    Packs (UnpackedFloat.round .binary64 s m e) (signed s * (m * 2 ^ e)) := by
  -- the mantissa is given enough bits before it is rounded
  obtain ⟨j, hj⟩ : ∃ j, (e - max ((m.log2 : Int) + 1 + e - 53) (-1074)).toNat = j := ⟨_, rfl⟩
  have hround : UnpackedFloat.round .binary64 s m e =
      roundWithAccuracy .binary64 s (m * 2 ^ j) (e - j) .exact := by
    rw [← Nat.shiftLeft_eq, ← hj]
    rfl
  have hvalue : ((m * 2 ^ j : Nat) : Rat) * 2 ^ (e - j) = m * 2 ^ e := by
    push_cast
    rw [mul_assoc, ← zpow_natCast (2 : Rat) j, ← zpow_add₀ two_ne_zero, add_sub_cancel]
  have hlow : 52 ≤ (m * 2 ^ j).log2 ∨ e - j ≤ -1074 := by
    rw [log2_mul_two_pow hm]
    omega
  rw [← hvalue] at h ⊢
  rw [hround]
  exact packs_roundWithAccuracy (by positivity) hlow h

theorem packs_normalize {i : Int} (h : Kept (i * 2 ^ e)) :
    Packs (normalize .binary64 i e .positive) (i * 2 ^ e) := by
  rw [UnpackedFloat.normalize]
  rcases lt_trichotomy i 0 with hi | rfl | hi
  · obtain ⟨n, hn⟩ := Int.eq_ofNat_of_zero_le (by omega : 0 ≤ -i)
    obtain rfl : i = -(n : Int) := by omega
    have hvalue : ((-(n : Int) : Int) : Rat) * 2 ^ e = signed .negative * (n * 2 ^ e) := by
      simp [signed]
    rw [compare_lt_iff_lt.mpr hi]
    rw [hvalue] at h ⊢
    simpa using packs_round (by omega) h
  · rw [compare_eq_iff_eq.mpr rfl]
    simpa using packs_zero .positive
  · obtain ⟨n, rfl⟩ := Int.eq_ofNat_of_zero_le hi.le
    have hvalue : (((n : Int) : Int) : Rat) * 2 ^ e = signed .positive * (n * 2 ^ e) := by
      simp [signed]
    rw [compare_gt_iff_gt.mpr hi]
    rw [hvalue] at h ⊢
    simpa using packs_round (by omega) h

/-! ## Calculations -/

theorem neg_exact (hx : Exact.ofFloat x = .finite q) : Exact.ofFloat (-x) = .finite (-q) := by
  have hpacks : Packs x.toModel.unpack.neg (-q) := by
    rcases unpack_cases hx with ⟨s, hu, rfl⟩ | ⟨s, m, e, hcanonical, hu, rfl⟩
    · rw [hu, neg_zero]
      exact packs_zero (-s)
    · rw [hu, ← neg_mul, ← signed_neg]
      exact hcanonical.packs (-s)
  exact hpacks.exact_eq

theorem mul_finite {s s' : Sign} {m m' : Nat} {e e' : Int} {hm : 0 < m} {hm' : 0 < m'} :
    UnpackedFloat.mul .binary64 (.finite s m e hm) (.finite s' m' e' hm') =
      roundWithAccuracy .binary64 (s * s') (m * m') (e + e') .exact := rfl

theorem mul_exact (hx : Exact.ofFloat x = .finite q) (hy : Exact.ofFloat y = .finite r)
    (h : Kept (q * r)) : Exact.ofFloat (x * y) = .finite (q * r) := by
  have hpacks : Packs (UnpackedFloat.mul .binary64 x.toModel.unpack y.toModel.unpack) (q * r) := by
    rcases unpack_cases hx with ⟨s, hu, rfl⟩ | ⟨s, m, e, hm, hu, rfl⟩
    · rw [hu, zero_mul]
      rcases unpack_cases hy with ⟨s', hv, rfl⟩ | ⟨s', m', e', hm', hv, rfl⟩
      · rw [hv]
        exact packs_zero (s * s')
      · rw [hv]
        exact packs_zero (s * s')
    · rcases unpack_cases hy with ⟨s', hv, rfl⟩ | ⟨s', m', e', hm', hv, rfl⟩
      · rw [hu, hv, mul_zero]
        exact packs_zero (s * s')
      · have hvalue : signed s * (m * 2 ^ e) * (signed s' * (m' * 2 ^ e')) =
            signed (s * s') * ((m * m' : Nat) * 2 ^ (e + e')) := by
          rw [signed_mul, zpow_add₀ two_ne_zero]
          push_cast
          ring
        have hne : m * m' ≠ 0 := Nat.ne_of_gt (Nat.mul_pos hm.pos hm'.pos)
        have hlow : 52 ≤ (m * m').log2 ∨ e + e' ≤ -1074 := by
          rcases hm.normal with hnormal | rfl
          · exact .inl ((Nat.le_log2 hne).mpr (hnormal.trans (Nat.le_mul_of_pos_right m hm'.pos)))
          · rcases hm'.normal with hnormal | rfl
            · exact .inl ((Nat.le_log2 hne).mpr (hnormal.trans (Nat.le_mul_of_pos_left m' hm.pos)))
            · exact .inr (by omega)
        rw [hu, hv, mul_finite]
        rw [hvalue] at h ⊢
        exact packs_roundWithAccuracy (Nat.mul_pos hm.pos hm'.pos) hlow h
  exact hpacks.exact_eq

/-- A mantissa is shifted to a lower exponent without a loss. -/
theorem apply_shiftLeft (s : Sign) (m : Nat) (hle : t ≤ e) :
    ((s.apply (m <<< (e - t).toNat : Nat) : Int) : Rat) * 2 ^ t = signed s * (m * 2 ^ e) := by
  obtain ⟨j, hj⟩ := Int.eq_ofNat_of_zero_le (Int.sub_nonneg.mpr hle)
  obtain rfl : e = t + j := by omega
  rw [hj, Int.toNat_natCast, Nat.shiftLeft_eq, zpow_add₀ two_ne_zero, zpow_natCast]
  cases s <;> simp only [Sign.apply, signed] <;> push_cast <;> ring

theorem add_exact (hx : Exact.ofFloat x = .finite q) (hy : Exact.ofFloat y = .finite r)
    (h : Kept (q + r)) : Exact.ofFloat (x + y) = .finite (q + r) := by
  have hpacks : Packs (UnpackedFloat.add .binary64 x.toModel.unpack y.toModel.unpack) (q + r) := by
    rcases unpack_cases hx with ⟨s, hu, rfl⟩ | ⟨s, m, e, hm, hu, rfl⟩
    · rw [hu, zero_add]
      rcases unpack_cases hy with ⟨s', hv, rfl⟩ | ⟨s', m', e', hm', hv, rfl⟩
      · rw [hv]
        cases s <;> cases s' <;> exact packs_zero _
      · rw [hv]
        exact hm'.packs s'
    · rcases unpack_cases hy with ⟨s', hv, rfl⟩ | ⟨s', m', e', hm', hv, rfl⟩
      · rw [hu, hv, add_zero]
        exact hm.packs s
      · have hvalue : signed s * (m * 2 ^ e) + signed s' * (m' * 2 ^ e') =
            ((s.apply (m <<< (e - min e e').toNat : Nat) +
              s'.apply (m' <<< (e' - min e e').toNat : Nat) : Int) : Rat) * 2 ^ min e e' := by
          rw [Int.cast_add, add_mul, apply_shiftLeft s m (min_le_left e e'),
            apply_shiftLeft s' m' (min_le_right e e')]
        rw [hu, hv]
        rw [hvalue] at h ⊢
        exact packs_normalize h
  exact hpacks.exact_eq

/-! ## Whole numbers -/

theorem Kept.neg (h : Kept q) : Kept (-q) := by
  obtain ⟨x, hx⟩ := h
  exact ⟨-x, neg_exact hx⟩

/-- A machine word that is the value of a real number is read exactly. -/
theorem toFloat_exact {w : UInt64} (h : Kept w.toNat) :
    Exact.ofFloat w.toFloat = .finite w.toNat := by
  have hvalue : (w.toNat : Rat) = ((w.toNat : Int) : Rat) * 2 ^ (0 : Int) := by simp
  rw [hvalue] at h ⊢
  exact (packs_normalize h).exact_eq

theorem ofScientific_exact (h : Kept n) :
    Exact.ofFloat (Float.ofScientific n false 0) = .finite n := by
  rcases Nat.eq_zero_or_pos n with rfl | hn
  · decide +kernel
  · unfold Float.ofScientific
    split
    next hsmall =>
      -- a small number is multiplied with one
      have hn : n.toUInt64.toNat = n := by
        rw [UInt64.toNat_ofNat']
        omega
      have hone : Exact.ofFloat Float.exactlyRepresentablePowersOfTen[0] = .finite 1 := by
        decide +kernel
      have hfloat : Exact.ofFloat n.toUInt64.toFloat = .finite n := by
        have hword := toFloat_exact (w := n.toUInt64) (by rwa [hn])
        rwa [hn] at hword
      have hproduct := mul_exact hfloat hone (by rwa [mul_one])
      rwa [mul_one] at hproduct
    next =>
      have hround : Float.Model.ofScientific n 0 =
          .pack (roundWithAccuracy .binary64 .positive (n * 2 ^ 53) (-53) .exact) := by
        have hinRange : ¬ (0 : Int) < -(2 ^ 11 + n.log2) := by omega
        rw [Float.Model.ofScientific, UnpackedFloat.ofScientific, dif_neg (Nat.ne_of_gt hn),
          if_neg (by decide), if_neg hinRange, if_pos (Int.le_refl 0), mul_finite,
          Nat.shiftLeft_eq]
        change Float.Model.pack
          (roundWithAccuracy .binary64 .positive (n * 2 ^ 53 * 10 ^ 0) (-53) .exact) = _
        rw [pow_zero, mul_one]
      have hvalue : (n : Rat) = signed .positive * ((n * 2 ^ 53 : Nat) * 2 ^ (-53 : Int)) := by
        have hcancel : (2 : Rat) ^ 53 * 2 ^ (-53 : Int) = 1 := by norm_num
        rw [Nat.cast_mul, Nat.cast_pow, Nat.cast_ofNat, mul_assoc, hcancel, mul_one, signed, one_mul]
      have hlow : 52 ≤ (n * 2 ^ 53).log2 ∨ (-53 : Int) ≤ -1074 := by
        rw [log2_mul_two_pow hn]
        omega
      change Exact.ofFloat (.ofModel (Float.Model.ofScientific n 0)) = _
      rw [hvalue] at h ⊢
      rw [hround]
      exact (packs_roundWithAccuracy (by positivity) hlow h).exact_eq

/-- A whole number that is the value of a real one is read exactly. -/
theorem nearestReal_exact {i : Int} (h : Kept i) : Exact.ofFloat (nearestReal i) = .finite i := by
  unfold nearestReal
  split
  next hi =>
    have habs : (i : Rat) = -(i.natAbs : Rat) := by
      rw [Nat.cast_natAbs, abs_of_neg hi, Int.cast_neg, neg_neg]
    rw [habs] at h ⊢
    exact neg_exact (ofScientific_exact (by simpa using h.neg))
  next hi =>
    have habs : (i : Rat) = (i.natAbs : Rat) := by
      rw [Nat.cast_natAbs, abs_of_nonneg (not_lt.mp hi)]
    rw [habs] at h ⊢
    exact ofScientific_exact h

/-! ## Whole numbers are not undefined -/

theorem isNaN_roundWithAccuracy (s : Sign) (m : Nat) (e : Int) (accuracy : UnpackedFloat.Accuracy) :
    (roundWithAccuracy .binary64 s m e accuracy).isNaN = false := by
  unfold roundWithAccuracy
  exact (apply_dite UnpackedFloat.isNaN _ _ _).trans (ite_self false)

theorem isNaN_normalize (i e : Int) (s : Sign) : (normalize .binary64 i e s).isNaN = false := by
  rw [UnpackedFloat.normalize]
  split
  · exact isNaN_roundWithAccuracy ..
  · rfl
  · exact isNaN_roundWithAccuracy ..

/-- What has another exponent, or no mantissa, is not packed as what is undefined. -/
theorem packComponents_ne_packedNaN {exponent : BitVec 11} {mantissa : BitVec 52}
    (h : exponent ≠ -1#11 ∨ mantissa = 0#52) :
    UnpackedFloat.packComponents .binary64 s exponent mantissa ≠
      UnpackedFloat.packedNaN .binary64 := by
  intro heq
  have hexponent := congrArg UnpackedFloat.unpackExponent heq
  have hmantissa := congrArg UnpackedFloat.unpackMantissa heq
  unfold UnpackedFloat.packedNaN at hexponent hmantissa
  rw [UnpackedFloat.unpackExponent_packComponents,
    UnpackedFloat.unpackExponent_packComponents] at hexponent
  rw [UnpackedFloat.unpackMantissa_packComponents,
    UnpackedFloat.unpackMantissa_packComponents] at hmantissa
  rcases h with h | rfl
  · exact h hexponent
  · exact absurd hmantissa (by decide)

theorem fields_of_isNaN {exponent : BitVec 11} {mantissa : BitVec 52}
    (h : (Binary64.ofFields s exponent mantissa).isNaN = true) :
    exponent = -1#11 ∧ mantissa ≠ 0#52 := by
  rw [Binary64.ofFields] at h
  by_cases hones : exponent = -1#11
  · refine ⟨hones, fun hnone ↦ ?_⟩
    rw [if_pos hones, if_pos hnone] at h
    cases h
  · rw [if_neg hones] at h
    by_cases hzero : exponent = 0#11
    · rw [if_pos hzero] at h
      by_cases hnone : mantissa = 0#52
      · rw [dif_pos hnone] at h
        cases h
      · rw [dif_neg hnone] at h
        cases h
    · rw [if_neg hzero] at h
      cases h

/-- Valid bits are unpacked as what is undefined only if they are the ones it is packed as. -/
theorem eq_packedNaN {b : BitVec 64} (hvalid : Format.binary64.Valid b)
    (h : (UnpackedFloat.unpack .binary64 b).isNaN = true) :
    b = UnpackedFloat.packedNaN .binary64 := by
  rw [Binary64.unpack_eq_ofFields] at h
  obtain ⟨hexponent, hmantissa⟩ := fields_of_isNaN h
  exact hvalid.eq_packedNaN hexponent hmantissa

/-- What is not undefined is not packed as if it were. -/
theorem isNaN_unpack_pack {u : UnpackedFloat} (h : u.isNaN = false) :
    (Float.Model.pack u).unpack.isNaN = false := by
  refine Bool.eq_false_iff.mpr fun hnan ↦ ?_
  have hpacked := eq_packedNaN UnpackedFloat.valid_pack hnan
  cases u with
  | notANumber => cases h
  | infinity s => exact packComponents_ne_packedNaN (.inr rfl) hpacked
  | zero s => exact packComponents_ne_packedNaN (.inr rfl) hpacked
  | finite s m e hm =>
    rw [pack_finite_eq] at hpacked
    split at hpacked
    · exact packComponents_ne_packedNaN (.inr rfl) hpacked
    next hsmall =>
      split at hpacked
      · refine packComponents_ne_packedNaN (.inl fun hones ↦ ?_) hpacked
        have hvalue : (e + 1023 + 52).toNat % 2 ^ 11 = 2047 := congrArg BitVec.toNat hones
        rw [Nat.mod_eq_of_lt (by omega)] at hvalue
        omega
      · exact packComponents_ne_packedNaN (.inl (by decide)) hpacked

/-- Zero times infinity is undefined, but one factor is a finite number that is not zero. -/
theorem isNaN_mul {u : UnpackedFloat} (h : u.isNaN = false) (hm : 0 < m) :
    (UnpackedFloat.mul .binary64 u (.finite s m e hm)).isNaN = false := by
  cases u with
  | notANumber => cases h
  | infinity t => rfl
  | zero t => rfl
  | finite t n k hn => exact isNaN_roundWithAccuracy ..

theorem isNaN_ofScientific (n : Nat) : (Float.ofScientific n false 0).isNaN = false := by
  unfold Float.ofScientific
  split
  · refine isNaN_unpack_pack ?_
    have hone : Exact.ofFloat Float.exactlyRepresentablePowersOfTen[0] = .finite 1 := by
      decide +kernel
    rcases unpack_cases hone with ⟨s, -, hzero⟩ | ⟨s, m, e, hcanonical, hu, -⟩
    · exact absurd hzero one_ne_zero
    · rw [hu]
      exact isNaN_mul (isNaN_unpack_pack (isNaN_normalize ..)) hcanonical.pos
  · refine isNaN_unpack_pack ?_
    change (UnpackedFloat.ofScientific .binary64 n 0).isNaN = false
    rcases Nat.eq_zero_or_pos n with rfl | hn
    · rfl
    · have hinRange : ¬ (0 : Int) < -(2 ^ 11 + n.log2) := by omega
      rw [UnpackedFloat.ofScientific, dif_neg (Nat.ne_of_gt hn), if_neg (by decide),
        if_neg hinRange, if_pos (Int.le_refl 0)]
      exact isNaN_mul rfl (by decide)

/-- A whole number that is read as a real one, however large, is not undefined. -/
theorem isNaN_nearestReal (i : Int) : (nearestReal i).isNaN = false := by
  unfold nearestReal
  split
  · refine isNaN_unpack_pack ?_
    have h : (Float.ofScientific i.natAbs false 0).toModel.unpack.isNaN = false :=
      isNaN_ofScientific i.natAbs
    cases hu : (Float.ofScientific i.natAbs false 0).toModel.unpack with
    | notANumber =>
      rw [hu] at h
      cases h
    | _ => rfl
  · exact isNaN_ofScientific i.natAbs

end Loadout.Number
