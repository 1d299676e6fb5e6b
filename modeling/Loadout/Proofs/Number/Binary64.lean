import Loadout.Number.Exact
import Mathlib.Algebra.Order.Field.Power
import Mathlib.Data.Rat.Cast.Order

/-!
# Binary64 numbers and their values

A binary64 number is a sign, a mantissa and an exponent; its bits say which.  What is unpacked from
the bits is `Canonical`, and what is canonical is unpacked again after it was packed, `unpack_pack`.
The exact value of a number is read off what is unpacked, `exact_eq_valueOf` and `unpack_cases`.
-/

namespace Loadout.Number

open Float.Model
open Float.Model.UnpackedFloat (Sign ExtendedMantissa unpackMantissa unpackExponent unpackSign)

variable {m k : Nat} {e : Int} {s : Sign} {x : Float}

/-! ## Bits -/

namespace Binary64

def isNegative : Sign → Bool
  | .negative => true
  | .positive => false

/-- What an unpacked number stands for. -/
def ofUnpacked : UnpackedFloat → Binary64
  | .notANumber => .nan
  | .infinity s => .infinite (isNegative s)
  | .zero s => .finite (isNegative s) 0 (-1074)
  | .finite s m e _ => .finite (isNegative s) m e

theorem isNegative_ofBitVec (b : BitVec 1) : isNegative (Sign.ofBitVec b) = (b.toNat == 1) := by
  decide +revert

variable (b : BitVec 64)

theorem toNat_unpackMantissa :
    (@unpackMantissa .binary64 b).toNat = b.toNat % Nat.pow 2 52 := by
  rw [unpackMantissa, BitVec.toNat_cast, BitVec.extractLsb_toNat, Nat.shiftRight_zero]
  rfl

theorem toNat_unpackExponent :
    (@unpackExponent .binary64 b).toNat = b.toNat / Nat.pow 2 52 % Nat.pow 2 11 := by
  rw [unpackExponent, BitVec.toNat_cast, BitVec.extractLsb_toNat, Nat.shiftRight_eq_div_pow]
  rfl

theorem toNat_unpackSign :
    (@unpackSign .binary64 b).toNat = b.toNat / Nat.pow 2 63 % 2 := by
  unfold unpackSign
  rw [BitVec.toNat_cast, BitVec.extractLsb_toNat, Nat.shiftRight_eq_div_pow]
  rfl

theorem unpackExponent_eq_ones_iff : @unpackExponent .binary64 b = -1#_ ↔
    (@unpackExponent .binary64 b).toNat = Nat.pow 2 11 - 1 :=
  BitVec.toNat_inj.symm

theorem unpackExponent_eq_zero_iff : @unpackExponent .binary64 b = 0#_ ↔
    (@unpackExponent .binary64 b).toNat = 0 :=
  BitVec.toNat_inj.symm

theorem unpackMantissa_eq_zero_iff : @unpackMantissa .binary64 b = 0#_ ↔
    (@unpackMantissa .binary64 b).toNat = 0 :=
  BitVec.toNat_inj.symm

theorem toNat_append_one (v : BitVec 52) : (1#1 ++ v).toNat = Nat.pow 2 52 + v.toNat := by
  have hor := Nat.two_pow_add_eq_or_of_lt v.isLt 1
  rw [BitVec.toNat_append, BitVec.toNat_ofNat]
  simpa using hor.symm

/-- What a number is unpacked to, of which the three fields are given. -/
def ofFields (s : Sign) (exponent : BitVec 11) (mantissa : BitVec 52) : UnpackedFloat :=
  if exponent = -1#11 then
    if mantissa = 0#52 then .infinity s else .notANumber
  else if exponent = 0#11 then
    if h : mantissa = 0#52 then .zero s
    else .finite s mantissa.toNat (-1074) (Nat.pos_of_ne_zero fun h' ↦ h (BitVec.eq_of_toNat_eq h'))
  else .finite s (2 ^ 52 + mantissa.toNat) (exponent.toNat - 1075) (by omega)

theorem finite_congr {m m' : Nat} {e e' : Int} {hm : 0 < m} {hm' : 0 < m'} (hmantissa : m = m')
    (hexponent : e = e') : UnpackedFloat.finite s m e hm = .finite s m' e' hm' := by
  subst hmantissa hexponent
  rfl

theorem unpack_eq_ofFields : UnpackedFloat.unpack .binary64 b =
    ofFields (.ofBitVec (@unpackSign .binary64 b)) (@unpackExponent .binary64 b)
      (@unpackMantissa .binary64 b) := by
  unfold UnpackedFloat.unpack ofFields
  refine if_congr .rfl rfl ?_
  by_cases hexponent : @unpackExponent .binary64 b = 0#11
  · refine (if_pos hexponent).trans (Eq.trans ?_ (if_pos hexponent).symm)
    rw [hexponent]
    rfl
  · refine (if_neg hexponent).trans (Eq.trans ?_ (if_neg hexponent).symm)
    exact finite_congr (toNat_append_one _) rfl

theorem ofUnpacked_ofFields (s : Sign) (exponent : BitVec 11) (mantissa : BitVec 52) :
    ofUnpacked (ofFields s exponent mantissa) =
      if exponent = -1#11 then
        if mantissa = 0#52 then .infinite (isNegative s) else .nan
      else if exponent = 0#11 then .finite (isNegative s) mantissa.toNat (-1074)
      else .finite (isNegative s) (2 ^ 52 + mantissa.toNat) (exponent.toNat - 1075) := by
  rw [ofFields, apply_ite ofUnpacked, apply_ite ofUnpacked, apply_ite ofUnpacked]
  refine if_congr .rfl rfl (if_congr .rfl ?_ rfl)
  by_cases hmantissa : mantissa = 0#52
  · rw [dif_pos hmantissa, hmantissa]
    rfl
  · rw [dif_neg hmantissa]
    rfl

/-- The bits of a number are those that are unpacked. -/
theorem ofFloat_eq (x : Float) : ofFloat x = ofUnpacked x.toModel.unpack := by
  have hbits : x.toBits.toNat = x.toModel.toBits.toBitVec.toNat := rfl
  rw [ofFloat, ofBits, hbits, Float.Model.unpack]
  generalize x.toModel.toBits.toBitVec = b
  rw [unpack_eq_ofFields, ofUnpacked_ofFields]
  simp only [← toNat_unpackMantissa, ← toNat_unpackExponent, ← toNat_unpackSign,
    ← isNegative_ofBitVec, ← unpackExponent_eq_ones_iff, ← unpackExponent_eq_zero_iff,
    ← unpackMantissa_eq_zero_iff]
  rfl

end Binary64

/-- A mantissa and an exponent as they are kept. -/
structure Canonical (m : Nat) (e : Int) : Prop where
  pos : 0 < m
  lt : m < 2 ^ 53
  low : -1074 ≤ e
  high : e ≤ 971
  /-- A smaller mantissa has the least exponent. -/
  normal : 2 ^ 52 ≤ m ∨ e = -1074

theorem ofBitVec_toBitVec (s : Sign) : Sign.ofBitVec s.toBitVec = s := by
  cases s <;> rfl

theorem unpackSign_packComponents {spec : Format} {exponent : BitVec spec.exponentBits}
    {mantissa : BitVec spec.mantissaBitsWithoutImplicit} :
    unpackSign (UnpackedFloat.packComponents spec s exponent mantissa) = s.toBitVec := by
  refine BitVec.eq_of_getLsbD_eq fun i hi ↦ ?_
  obtain rfl : i = 0 := by omega
  unfold unpackSign
  simp [UnpackedFloat.packComponents, BitVec.getLsbD_append, BitVec.getElem_append]

theorem unpack_packComponents {exponent : BitVec 11} {mantissa : BitVec 52} :
    UnpackedFloat.unpack .binary64 (UnpackedFloat.packComponents .binary64 s exponent mantissa) =
      Binary64.ofFields s exponent mantissa := by
  rw [Binary64.unpack_eq_ofFields, UnpackedFloat.unpackExponent_packComponents,
    UnpackedFloat.unpackMantissa_packComponents, unpackSign_packComponents, ofBitVec_toBitVec]

theorem unpack_packedZero :
    UnpackedFloat.unpack .binary64 (UnpackedFloat.packedZero .binary64 s) = .zero s :=
  unpack_packComponents

theorem pack_finite_eq {hm : 0 < m} : UnpackedFloat.pack .binary64 (.finite s m e hm) =
    if 2 ^ 11 ≤ (e + 1023 + 52).toNat + 1 then UnpackedFloat.packedInfinity .binary64 s
    else if m.log2 + 1 = 53 then
      UnpackedFloat.packComponents .binary64 s (BitVec.ofNat 11 (e + 1023 + 52).toNat)
        (BitVec.ofNat 52 m)
    else UnpackedFloat.packComponents .binary64 s 0#11 (BitVec.ofNat 52 m) := rfl

theorem unpack_pack (h : Canonical m e) :
    (Float.Model.pack (.finite s m e h.pos)).unpack = .finite s m e h.pos := by
  have hexponent : ¬ 2 ^ 11 ≤ (e + 1023 + 52).toNat + 1 := by
    have := h.high
    omega
  change UnpackedFloat.unpack .binary64 (UnpackedFloat.pack .binary64 _) = _
  rw [pack_finite_eq, if_neg hexponent]
  by_cases hm : 2 ^ 52 ≤ m
  · have hlog : m.log2 = 52 := (Nat.log2_eq_iff (Nat.ne_of_gt h.pos)).mpr ⟨hm, h.lt⟩
    have hlow := h.low
    have hhigh := h.high
    have hexponent : (BitVec.ofNat 11 (e + 1023 + 52).toNat).toNat = (e + 1023 + 52).toNat := by
      rw [BitVec.toNat_ofNat, Nat.mod_eq_of_lt (by omega)]
    have hmantissa : 2 ^ 52 + (BitVec.ofNat 52 m).toNat = m := by
      have hlt := h.lt
      rw [BitVec.toNat_ofNat]
      omega
    have hzero : BitVec.ofNat 11 (e + 1023 + 52).toNat ≠ 0#11 := by
      intro heq
      rw [heq, BitVec.toNat_ofNat] at hexponent
      omega
    have hones : BitVec.ofNat 11 (e + 1023 + 52).toNat ≠ -1#11 := by
      intro heq
      have hvalue : (-1#11 : BitVec 11).toNat = 2047 := rfl
      rw [heq, hvalue] at hexponent
      omega
    rw [if_pos (by omega), unpack_packComponents, Binary64.ofFields, if_neg hones, if_neg hzero]
    refine Binary64.finite_congr hmantissa ?_
    rw [hexponent]
    omega
  · obtain rfl : e = -1074 := h.normal.resolve_left hm
    have hlt : m.log2 < 52 := (Nat.log2_lt (Nat.ne_of_gt h.pos)).mpr (Nat.lt_of_not_le hm)
    have hmantissa : (BitVec.ofNat 52 m).toNat = m := by
      rw [BitVec.toNat_ofNat, Nat.mod_eq_of_lt (Nat.lt_of_not_le hm)]
    have hpos : BitVec.ofNat 52 m ≠ 0#52 := fun heq ↦
      Nat.ne_of_gt h.pos (hmantissa.symm.trans (congrArg BitVec.toNat heq))
    rw [if_neg (by omega), unpack_packComponents, Binary64.ofFields, if_neg (by decide),
      if_pos rfl, dif_neg hpos]
    exact Binary64.finite_congr hmantissa rfl

/-! ## Exact values -/

/-- A sign as a factor. -/
def signed : Sign → Rat
  | .negative => -1
  | .positive => 1

/-- The exact value of an unpacked number. -/
def valueOf (u : UnpackedFloat) : Exact :=
  .ofBinary64 (Binary64.ofUnpacked u)

theorem exact_eq_valueOf (x : Float) : Exact.ofFloat x = valueOf x.toModel.unpack :=
  congrArg Exact.ofBinary64 (Binary64.ofFloat_eq x)

theorem exact_finite (negative : Bool) (m : Nat) (e : Int) :
    Exact.ofBinary64 (.finite negative m e) =
      .finite ((if negative then -1 else 1) * (m * 2 ^ e)) := by
  have hfraction : (((Binary64.fraction m e).1 : Int) : Rat) / ((Binary64.fraction m e).2 : Rat) =
      m * 2 ^ e := by
    unfold Binary64.fraction
    split
    next he =>
      obtain ⟨n, rfl⟩ := Int.eq_ofNat_of_zero_le he
      simp
    next he =>
      obtain ⟨n, hn⟩ := Int.eq_ofNat_of_zero_le (by omega : 0 ≤ -e)
      obtain rfl : e = -(n : Int) := by omega
      simp [div_eq_mul_inv]
  simp only [Exact.ofBinary64, Rat.mkRat_eq_div, ← hfraction]
  cases negative <;> simp [neg_div]

theorem valueOf_zero (s : Sign) : valueOf (.zero s) = .finite 0 := by
  refine (exact_finite _ 0 (-1074)).trans ?_
  simp

theorem valueOf_finite {hm : 0 < m} :
    valueOf (.finite s m e hm) = .finite (signed s * (m * 2 ^ e)) := by
  cases s <;> exact exact_finite _ m e

theorem signed_mul (s t : Sign) : signed (s * t) = signed s * signed t := by
  cases s with
  | negative =>
    cases t with
    | negative => exact (by norm_num : (1 : Rat) = -1 * -1)
    | positive => exact (mul_one (-1 : Rat)).symm
  | positive => cases t <;> exact (one_mul _).symm

theorem signed_neg (s : Sign) : signed (-s) = -signed s := by
  cases s with
  | negative => exact (neg_neg 1).symm
  | positive => rfl

/-- The numbers of which a binary64 number is the exact value. -/
def Kept (q : Rat) : Prop :=
  ∃ x : Float, Exact.ofFloat x = .finite q

theorem canonical_unpack {b : BitVec 64} {hm : 0 < m}
    (h : UnpackedFloat.unpack .binary64 b = .finite s m e hm) : Canonical m e := by
  have hmantissa : (@unpackMantissa .binary64 b).toNat < 2 ^ 52 := BitVec.isLt _
  have hexponent : (@unpackExponent .binary64 b).toNat < 2 ^ 11 := BitVec.isLt _
  rw [Binary64.unpack_eq_ofFields, Binary64.ofFields] at h
  by_cases hones : @unpackExponent .binary64 b = -1#11
  · rw [if_pos hones] at h
    by_cases hnone : @unpackMantissa .binary64 b = 0#52
    · rw [if_pos hnone] at h
      cases h
    · rw [if_neg hnone] at h
      cases h
  · rw [if_neg hones] at h
    rw [Binary64.unpackExponent_eq_ones_iff, Nat.pow_eq] at hones
    by_cases hzero : @unpackExponent .binary64 b = 0#11
    · rw [if_pos hzero] at h
      by_cases hnone : @unpackMantissa .binary64 b = 0#52
      · rw [dif_pos hnone] at h
        cases h
      · rw [dif_neg hnone] at h
        injection h with _ hm' he
        exact ⟨hm, by omega, by omega, by omega, .inr he.symm⟩
    · rw [if_neg hzero] at h
      rw [Binary64.unpackExponent_eq_zero_iff] at hzero
      injection h with _ hm' he
      exact ⟨hm, by omega, by omega, by omega, .inl (by omega)⟩

/-- What a number of a finite value is unpacked to. -/
theorem unpack_cases {q : Rat} (h : Exact.ofFloat x = .finite q) :
    (∃ s, x.toModel.unpack = .zero s ∧ q = 0) ∨ ∃ s m e, ∃ hm : Canonical m e,
      x.toModel.unpack = .finite s m e hm.pos ∧ q = signed s * (m * 2 ^ e) := by
  rw [exact_eq_valueOf] at h
  cases hu : x.toModel.unpack with
  | notANumber => rw [hu] at h; cases h
  | infinity s => rw [hu] at h; cases h
  | zero s =>
    rw [hu, valueOf_zero] at h
    exact .inl ⟨s, rfl, (Exact.finite.inj h).symm⟩
  | finite s m e hm =>
    rw [hu, valueOf_finite] at h
    exact .inr ⟨s, m, e, canonical_unpack hu, rfl, (Exact.finite.inj h).symm⟩

end Loadout.Number
