import Loadout.Proofs.Number.Binary64
import Loadout.Value.Arithmetic
import Mathlib.Algebra.Order.Ring.Abs
import Mathlib.Data.List.DropRight
import Mathlib.Tactic.FieldSimp
import Mathlib.Tactic.Linarith
import Mathlib.Tactic.NormNum
import Mathlib.Tactic.Ring

/-!
# Weights as decimals

The text of a weight is a plain decimal, and what it stands for is the weight rounded to the places
that are kept, `Value.weightText_isDecimal`: to the nearest such decimal, and a half to the even one.
Zeros at the end are dropped only after the point, since the point stands before the digits of the
whole part when the text is shortened from its end, `stripPlaces_point`.
-/

namespace Loadout.Number

variable {q : Rat} {k : Int} {num den units : Nat} {whole fraction : List Char}

/-! ## Rounding to the even neighbour -/

/-- A whole number that is nearest to a rational one, and even if another one is as near. -/
structure NearestEven (q : Rat) (k : Int) : Prop where
  near : |q - k| ≤ 1 / 2
  even : |q - k| = 1 / 2 → Even k

namespace NearestEven

/-- There is one such number: of two neighbours that are both as near as a half, one is odd. -/
theorem unique {k' : Int} (h : NearestEven q k) (h' : NearestEven q k') : k = k' := by
  wlog hle : k ≤ k' generalizing k k'
  · exact (this h' h (by omega)).symm
  have hlow := abs_le.mp h.near
  have hhigh := abs_le.mp h'.near
  by_contra hne
  have hstep : (k : Rat) + 1 ≤ k' := by exact_mod_cast (by omega : k + 1 ≤ k')
  have hk : q - k = 1 / 2 := by linarith
  have hk' : q - k' = -(1 / 2) := by linarith
  have heven := h.even (by rw [hk, abs_of_pos (by norm_num)])
  have heven' := h'.even (by rw [hk', abs_neg, abs_of_pos (by norm_num)])
  have hnext : k' = k + 1 := by exact_mod_cast (by linarith : (k' : Rat) = k + 1)
  obtain ⟨a, ha⟩ := heven
  obtain ⟨b, hb⟩ := heven'
  omega

theorem neg (h : NearestEven q k) : NearestEven (-q) (-k) := by
  have habs : |-q - ((-k : Int) : Rat)| = |q - k| := by
    rw [Int.cast_neg, ← abs_neg]
    congr 1
    ring
  exact ⟨habs ▸ h.near, fun hhalf ↦ (h.even (habs ▸ hhalf)).neg⟩

end NearestEven

/-- A quotient that lies halfway leaves half the divisor. -/
theorem two_mul_mod_of_tie {j : Int} (hden : 0 < den) (h : (2 * num : Int) = den * (2 * j + 1)) :
    2 * (num % den) = den := by
  have hdiv : (num : Int) = den * (num / den : Nat) + (num % den : Nat) := by
    exact_mod_cast (Nat.div_add_mod num den).symm
  have hlt : ((num % den : Nat) : Int) < den := by exact_mod_cast Nat.mod_lt num hden
  have hmul : (2 * (num % den : Nat) : Int) = den * (2 * (j - (num / den : Nat)) + 1) := by
    rw [hdiv] at h
    linarith
  set d := j - (num / den : Nat)
  have hd : d = 0 := by
    rcases Int.lt_trichotomy d 0 with hneg | hzero | hpos
    · have hle : (den : Int) * d ≤ den * -1 := mul_le_mul_of_nonneg_left (by omega) (by omega)
      linarith
    · exact hzero
    · have hle : (den : Int) * 1 ≤ den * d := mul_le_mul_of_nonneg_left (by omega) (by omega)
      linarith
  rw [hd] at hmul
  omega

theorem nearestEven_roundDiv (hden : 0 < den) :
    NearestEven ((num : Rat) / den) (roundDiv num den) := by
  have hpos : (0 : Rat) < den := Nat.cast_pos.mpr hden
  have hle : 2 * num ≤ 2 * den * roundDiv num den + den := le_roundDiv hden
  have hge : 2 * den * roundDiv num den ≤ 2 * num + den := roundDiv_le hden
  have hlow : (2 * num : Rat) ≤ 2 * den * roundDiv num den + den := by exact_mod_cast hle
  have hhigh : (2 * den * roundDiv num den : Rat) ≤ 2 * num + den := by exact_mod_cast hge
  have hsub : (num : Rat) / den - (roundDiv num den : Int) =
      (num - den * roundDiv num den) / den := by
    rw [Int.cast_natCast]
    field_simp
  refine ⟨?_, fun hhalf ↦ ?_⟩
  · rw [hsub, abs_le, le_div_iff₀ hpos, div_le_iff₀ hpos]
    constructor <;> linarith
  · have htie : 2 * (num % den) = den := by
      rw [hsub] at hhalf
      rcases (abs_eq (by norm_num)).mp hhalf with habove | hbelow
      · rw [div_eq_iff hpos.ne'] at habove
        refine two_mul_mod_of_tie (j := roundDiv num den) hden ?_
        exact_mod_cast (by linarith : (2 * num : Rat) = den * (2 * roundDiv num den + 1))
      · rw [div_eq_iff hpos.ne'] at hbelow
        refine two_mul_mod_of_tie (j := roundDiv num den - 1) hden ?_
        exact_mod_cast (by linarith : (2 * num : Rat) = den * (2 * (roundDiv num den - 1) + 1))
    exact (Int.even_coe_nat _).mpr (Nat.even_iff.mpr (roundDiv_even_of_tie htie))

/-! ## Plain decimals -/

/-- Digits of a whole part, with a point and the digits of a fraction if there are any. -/
def plainDecimal (whole fraction : List Char) : List Char :=
  whole ++ if fraction = [] then [] else '.' :: fraction

/-- The number that digits before and after a point stand for. -/
def decimalValue (whole fraction : List Char) : Rat :=
  (Nat.ofDigitChars 10 (whole ++ fraction) 0 : Rat) / 10 ^ fraction.length

/-- What a decimal without a sign stands for.  There are digits on both sides of a point. -/
def unsignedDecimal? (cs : List Char) : Option Rat :=
  let whole := cs.takeWhile Char.isDigit
  if whole = [] then none
  else
    match cs.dropWhile Char.isDigit with
    | [] => some (decimalValue whole [])
    | '.' :: fraction =>
      if fraction ≠ [] ∧ fraction.all Char.isDigit then some (decimalValue whole fraction) else none
    | _ => none

/-- What a decimal stands for. -/
def decimal? : List Char → Option Rat
  | '-' :: cs => (-1 * ·) <$> unsignedDecimal? cs
  | cs => unsignedDecimal? cs

theorem unsignedDecimal?_plainDecimal (hne : whole ≠ []) (hwhole : ∀ c ∈ whole, c.isDigit)
    (hfraction : ∀ c ∈ fraction, c.isDigit) :
    unsignedDecimal? (plainDecimal whole fraction) = some (decimalValue whole fraction) := by
  by_cases hnone : fraction = []
  · subst hnone
    have htake : whole.takeWhile Char.isDigit = whole := List.takeWhile_eq_self_iff.mpr hwhole
    have hdrop : whole.dropWhile Char.isDigit = [] := List.dropWhile_eq_nil_iff.mpr hwhole
    simp [unsignedDecimal?, plainDecimal, htake, hdrop, hne]
  · have htake : (whole ++ '.' :: fraction).takeWhile Char.isDigit = whole := by
      rw [List.takeWhile_append_of_pos hwhole, List.takeWhile_cons_of_neg (by decide),
        List.append_nil]
    have hdrop : (whole ++ '.' :: fraction).dropWhile Char.isDigit = '.' :: fraction := by
      rw [List.dropWhile_append_of_pos hwhole, List.dropWhile_cons_of_neg (by decide)]
    have hall : fraction.all Char.isDigit := List.all_eq_true.mpr hfraction
    simp [unsignedDecimal?, plainDecimal, htake, hdrop, hne, hnone, hall]

/-- A decimal without a sign begins with a digit, so a sign is told from the rest. -/
theorem decimal?_plainDecimal (negative : Bool) (hne : whole ≠ [])
    (hwhole : ∀ c ∈ whole, c.isDigit) (hfraction : ∀ c ∈ fraction, c.isDigit) :
    decimal? ((if negative then ['-'] else []) ++ plainDecimal whole fraction) =
      some ((if negative then -1 else 1) * decimalValue whole fraction) := by
  have hunsigned := unsignedDecimal?_plainDecimal hne hwhole hfraction
  cases negative with
  | true =>
    change (-1 * ·) <$> unsignedDecimal? (plainDecimal whole fraction) = _
    rw [hunsigned]
    rfl
  | false =>
    obtain ⟨c, cs, rfl⟩ := List.exists_cons_of_ne_nil hne
    have hc : c ≠ '-' := by
      rintro rfl
      exact absurd (hwhole '-' List.mem_cons_self) (by decide)
    rw [plainDecimal, List.cons_append] at hunsigned ⊢
    simp only [Bool.false_eq_true, if_false, List.nil_append, one_mul]
    rw [decimal?, hunsigned]
    simpa using hc

/-! ## Shortening a text from its end -/

theorem rdropWhile_append_cons {α : Type} {p : α → Bool} {a : α} (ha : ¬ p a) (xs ys : List α) :
    (xs ++ a :: ys).rdropWhile p = xs ++ a :: ys.rdropWhile p := by
  induction ys using List.reverseRecOn with
  | nil => rw [List.rdropWhile_concat_neg _ _ _ ha, List.rdropWhile_nil]
  | append_singleton ys y ih =>
    rw [← List.cons_append, ← List.append_assoc, List.rdropWhile_concat, List.rdropWhile_concat]
    split
    · exact ih
    · simp

theorem dropTrailing_eq_self {c : Char} {cs : List Char} (hc : ¬ c.isDigit)
    (hcs : ∀ d ∈ cs, d.isDigit) : dropTrailing c cs = cs := by
  refine List.rdropWhile_eq_self_iff.mpr fun hne h ↦ hc ?_
  exact eq_of_beq h ▸ hcs _ (List.getLast_mem hne)

theorem mem_of_mem_dropTrailing {c d : Char} {cs : List Char} (h : d ∈ dropTrailing c cs) :
    d ∈ cs :=
  (List.rdropWhile_prefix (· == c) cs).subset h

/-- Zeros are dropped from the fraction only, and the point if nothing is left of it. -/
theorem stripPlaces_point (hwhole : ∀ c ∈ whole, c.isDigit) (hfraction : ∀ c ∈ fraction, c.isDigit) :
    stripPlaces (whole ++ '.' :: fraction) = plainDecimal whole (dropTrailing '0' fraction) := by
  have hzeros : dropTrailing '0' (whole ++ '.' :: fraction) =
      whole ++ '.' :: dropTrailing '0' fraction := rdropWhile_append_cons (by decide) _ _
  rw [stripPlaces, hzeros, plainDecimal]
  by_cases hnone : dropTrailing '0' fraction = []
  · rw [hnone, if_pos rfl, List.append_nil]
    exact (List.rdropWhile_concat_pos _ _ _ rfl).trans (dropTrailing_eq_self (by decide) hwhole)
  · obtain ⟨cs, c, hcs⟩ := (List.eq_nil_or_concat' (dropTrailing '0' fraction)).resolve_left hnone
    have hmem : c ∈ dropTrailing '0' fraction := by simp [hcs]
    have hc : ¬ (c == '.') := by
      intro h
      have hdigit := hfraction c (mem_of_mem_dropTrailing hmem)
      rw [eq_of_beq h] at hdigit
      exact absurd hdigit (by decide)
    rw [if_neg hnone, hcs, ← List.cons_append, ← List.append_assoc]
    exact List.rdropWhile_concat_neg _ _ _ hc

/-- Zeros at the end of a fraction add nothing to what it stands for. -/
theorem decimalValue_dropTrailing (whole fraction : List Char) :
    decimalValue whole (dropTrailing '0' fraction) = decimalValue whole fraction := by
  obtain ⟨n, hsplit⟩ : ∃ n, fraction = dropTrailing '0' fraction ++ List.replicate n '0' := by
    have hzeros : ∀ c ∈ fraction.rtakeWhile (· == '0'), c = '0' := by
      intro c hc
      have hzero : (c == '0') = true := List.mem_rtakeWhile_imp (p := (· == '0')) hc
      exact eq_of_beq hzero
    refine ⟨(fraction.rtakeWhile (· == '0')).length, ?_⟩
    rw [← List.eq_replicate_of_mem hzeros]
    exact List.rdropWhile_append_rtakeWhile.symm
  generalize dropTrailing '0' fraction = kept at hsplit
  have hdigits : Nat.ofDigitChars 10 (whole ++ fraction) 0 =
      10 ^ n * Nat.ofDigitChars 10 (whole ++ kept) 0 := by
    rw [hsplit, ← List.append_assoc, Nat.ofDigitChars_append, Nat.ofDigitChars_replicate_zero]
  rw [decimalValue, decimalValue, hdigits, hsplit, List.length_append, List.length_replicate, pow_add]
  push_cast
  field_simp

/-! ## A fixed number of places -/

/-- The digits after the point of a number of units of the last place. -/
def fractionDigits (units : Nat) : List Char :=
  List.replicate (keptPlaces - (Nat.toDigits 10 (units % 10 ^ keptPlaces)).length) '0' ++
    Nat.toDigits 10 (units % 10 ^ keptPlaces)

theorem placesText_eq (units : Nat) :
    placesText units = Nat.toDigits 10 (units / 10 ^ keptPlaces) ++ '.' :: fractionDigits units := by
  simp [placesText, fractionDigits]

theorem isDigit_toDigits (n : Nat) : ∀ c ∈ Nat.toDigits 10 n, c.isDigit := fun _ hc ↦
  Nat.isDigit_of_mem_toDigits (by decide) (by decide) hc

theorem isDigit_fractionDigits (units : Nat) : ∀ c ∈ fractionDigits units, c.isDigit := by
  intro c hc
  rcases List.mem_append.mp hc with hc | hc
  · rw [List.eq_of_mem_replicate hc]
    rfl
  · exact isDigit_toDigits _ c hc

theorem length_fractionDigits (units : Nat) : (fractionDigits units).length = keptPlaces := by
  have hle : (Nat.toDigits 10 (units % 10 ^ keptPlaces)).length ≤ keptPlaces :=
    (Nat.length_toDigits_le_iff (by decide) (by decide)).mpr (Nat.mod_lt _ (by decide))
  rw [fractionDigits, List.length_append, List.length_replicate, Nat.sub_add_cancel hle]

/-- All digits of a number of units, before and after the point, are those of the number. -/
theorem decimalValue_fractionDigits (units : Nat) :
    decimalValue (Nat.toDigits 10 (units / 10 ^ keptPlaces)) (fractionDigits units) =
      units / 10 ^ keptPlaces := by
  have hfraction : Nat.ofDigitChars 10 (fractionDigits units) 0 = units % 10 ^ keptPlaces := by
    rw [fractionDigits, Nat.ofDigitChars_append, Nat.ofDigitChars_replicate_zero, Nat.mul_zero,
      Nat.ofDigitChars_ten_toDigits]
  rw [decimalValue, Nat.ofDigitChars_append, Nat.ofDigitChars_eq_ofDigitChars_zero, hfraction,
    length_fractionDigits, Nat.ofDigitChars_ten_toDigits, Nat.div_add_mod]

/-- How a number of units of the last place is written. -/
structure IsDecimal (k : Int) (text : String) : Prop where
  value : decimal? text.toList = some ((k : Rat) / 10 ^ keptPlaces)
  /-- There is a sign perhaps, then all digits of the whole part, and then a point only if there are
  digits after it, no more of them than places that are kept, and the last one not a zero. -/
  layout : ∃ (negative : Bool) (fraction : List Char),
    text.toList = (if negative then ['-'] else []) ++
      plainDecimal (Nat.toDigits 10 (k.natAbs / 10 ^ keptPlaces)) fraction ∧
    fraction.length ≤ keptPlaces ∧ (∀ c ∈ fraction, c.isDigit) ∧ fraction.getLast? ≠ some '0'

theorem getLast?_dropTrailing (c : Char) (cs : List Char) : (dropTrailing c cs).getLast? ≠ some c := by
  intro h
  have hne : dropTrailing c cs ≠ [] := by
    intro hnil
    rw [hnil] at h
    exact nomatch h
  rw [List.getLast?_eq_some_getLast hne, Option.some.injEq] at h
  have hnot : ¬ ((dropTrailing c cs).getLast hne == c) := List.rdropWhile_last_not _ _ hne
  exact hnot (beq_iff_eq.mpr h)

theorem isDecimal_stripPlaces (negative : Bool) (units : Nat) :
    IsDecimal (if negative then -units else units)
      (String.ofList (if negative then '-' :: stripPlaces (placesText units)
        else stripPlaces (placesText units))) := by
  have hwhole := isDigit_toDigits (units / 10 ^ keptPlaces)
  have hdigits := isDigit_fractionDigits units
  have hkept : ∀ c ∈ dropTrailing '0' (fractionDigits units), c.isDigit := fun c hc ↦
    hdigits c (mem_of_mem_dropTrailing hc)
  have htext : (String.ofList (if negative then '-' :: stripPlaces (placesText units)
      else stripPlaces (placesText units))).toList = (if negative then ['-'] else []) ++
        plainDecimal (Nat.toDigits 10 (units / 10 ^ keptPlaces))
          (dropTrailing '0' (fractionDigits units)) := by
    rw [String.toList_ofList, placesText_eq, stripPlaces_point hwhole hdigits]
    cases negative <;> rfl
  have habs : (if negative then -(units : Int) else units).natAbs = units := by
    cases negative <;> simp
  refine ⟨?_, negative, dropTrailing '0' (fractionDigits units), ?_, ?_, hkept,
    getLast?_dropTrailing _ _⟩
  · rw [htext, decimal?_plainDecimal negative Nat.toDigits_ne_nil hwhole hkept,
      decimalValue_dropTrailing, decimalValue_fractionDigits]
    cases negative
    · simp
    · simp [neg_div]
  · rw [htext, habs]
  · exact (List.rdropWhile_prefix _ _).length_le.trans (length_fractionDigits units).le

/-- The text of a number with a finite value is that of the rounded value. -/
theorem weightText_isDecimal {x : Float} (h : Exact.ofFloat x = .finite q) :
    ∃ k, NearestEven (q * 10 ^ keptPlaces) k ∧ IsDecimal k (weightText x) := by
  rw [Exact.ofFloat] at h
  rw [weightText]
  cases hx : Binary64.ofFloat x with
  | nan =>
    rw [hx] at h
    exact nomatch h
  | infinite negative =>
    rw [hx] at h
    exact nomatch h
  | finite negative mantissa exponent =>
    have hden := Binary64.fraction_den_pos mantissa exponent
    rw [hx, Exact.ofBinary64] at h
    simp only [Binary64.weightText]
    generalize Binary64.fraction mantissa exponent = f at h hden
    obtain ⟨num, den⟩ := f
    have hq := Exact.finite.inj h
    refine ⟨_, ?_, isDecimal_stripPlaces negative (lastPlaceUnits num den)⟩
    have hround : NearestEven ((num : Rat) / den * 10 ^ keptPlaces) (lastPlaceUnits num den) := by
      have hscale : (num : Rat) / den * 10 ^ keptPlaces = (num * 10 ^ keptPlaces : Nat) / den := by
        push_cast
        ring
      rw [hscale]
      exact nearestEven_roundDiv hden
    rw [← hq, Rat.mkRat_eq_div]
    cases negative
    · simpa using hround
    · simpa [neg_div] using hround.neg

end Loadout.Number

/-! ## Weights of all kinds -/

namespace Loadout.Value

open Number (Exact IsDecimal NearestEven keptPlaces)

variable {v : Value} {q : Rat}

/-- A number with a finite value.  A whole number is read as a real one first. -/
def IsWeight (v : Value) (q : Rat) : Prop :=
  ∃ a x, v.quantity? = some a ∧ a.toReal = .ok x ∧ Exact.ofFloat x = .finite q

theorem IsWeight.exists_text (h : v.IsWeight q) : ∃ k text,
    NearestEven (q * 10 ^ keptPlaces) k ∧ v.weightText = .ok text ∧ IsDecimal k text := by
  obtain ⟨a, x, hv, hx, hq⟩ := h
  obtain ⟨k, hk, htext⟩ := Number.weightText_isDecimal hq
  have hwritten : v.weightText = Number.weightText <$> a.toReal := by
    cases v <;> simp_all [quantity?, weightText]
  exact ⟨k, _, hk, by rw [hwritten, hx]; rfl, htext⟩

/-- The text of a weight is a decimal with the places that are kept, and stands for the nearest one to
the weight.  So weights that are rounded to different decimals have different texts. -/
theorem weightText_nearest (h : v.IsWeight q) : ∃ k text,
    NearestEven (q * 10 ^ keptPlaces) k ∧ v.weightText = .ok text ∧ IsDecimal k text ∧
      ∀ v' q' k', IsWeight v' q' → NearestEven (q' * 10 ^ keptPlaces) k' →
        v'.weightText = .ok text → k' = k := by
  obtain ⟨k, text, hk, htext, hdecimal⟩ := h.exists_text
  refine ⟨k, text, hk, htext, hdecimal, fun v' q' k' h' hk' hsame ↦ ?_⟩
  obtain ⟨l, text', hl, htext', hdecimal'⟩ := h'.exists_text
  obtain rfl : text = text' := Except.ok.inj (hsame.symm.trans htext')
  have hvalue := Option.some.inj (hdecimal.value.symm.trans hdecimal'.value)
  have hkl : (k : Rat) = l := by
    have hpos : (10 : Rat) ^ keptPlaces ≠ 0 := by norm_num [keptPlaces]
    exact (div_left_inj' hpos).mp hvalue
  rw [hk'.unique hl, Int.cast_injective hkl]

/-- A tie in the last place, and zeros at the end of the whole part. -/
theorem weightText_nearest_sample : (real (-100.03125)).IsWeight (-3201 / 32) ∧
    (real (-100.03125)).weightText = .ok "-100.0312" ∧ IsDecimal (-1000312) "-100.0312" ∧
    ∀ v' q' k', IsWeight v' q' → NearestEven (q' * 10 ^ keptPlaces) k' →
      v'.weightText = .ok "-100.0312" → k' = -1000312 := by
  have hweight : (real (-100.03125)).IsWeight (-3201 / 32) :=
    ⟨_, _, rfl, rfl, by decide +kernel⟩
  have hwritten : (real (-100.03125)).weightText = .ok "-100.0312" := by decide +kernel
  obtain ⟨k, text, hk, htext, hdecimal, hother⟩ := weightText_nearest hweight
  have heven : NearestEven (-3201 / 32 * 10 ^ keptPlaces) (-1000312) := by
    constructor
    · norm_num [keptPlaces, abs_le]
    · exact fun _ ↦ by decide
  obtain rfl := hk.unique heven
  obtain rfl : text = "-100.0312" := Except.ok.inj (htext.symm.trans hwritten)
  exact ⟨hweight, htext, hdecimal, hother⟩

end Loadout.Value
