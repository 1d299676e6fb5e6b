import Loadout.Proofs.Equipment.Reading
import Loadout.Proofs.Value.Sameness
import Loadout.Value.Equality
import Mathlib.Algebra.BigOperators.Group.List.Basic
import Mathlib.Data.List.Perm.Subperm

/-!
# Numbers with names

The bonuses of a piece of equipment are numbers with names, and so are the coefficients of a weight
function.  Mappings that are equal are read as the same real numbers, in whatever order their entries
stand, `Equal.exactReadings_perm`; and the weighted sums are the same for them, `total_congr`.
-/

namespace Loadout

open Number (Exact)

/-- Numbers with names, as the entries of a mapping. -/
abbrev Amounts := List (String × Value)

namespace Amounts

variable {c c' m m' : Amounts} {k : String} {v v' : Value} {x : Float} {q : Rat}

/-- A mapping from strings to finite numbers. -/
structure IsMapping (m : Amounts) : Prop where
  nodup : (m.map Prod.fst).Nodup
  finite : ∀ e ∈ m, ∃ q, e.2.number? = some (.finite q)

/-- No number is too large to be a real one. -/
def Readable (m : Amounts) : Prop :=
  ∀ e ∈ m, ∃ x, e.2.measure = .ok x

def entries (m : Amounts) : List (Value × Value) :=
  m.map fun e ↦ (.text e.1, e.2)

/-- Equality of mappings. -/
def Equal (m m' : Amounts) : Prop :=
  (Value.mapping m.entries).equal (.mapping m'.entries) = .ok true

/-- The real number that a number is read as. -/
def reading (v : Value) : Float :=
  match v.measure with
  | .ok x => x
  | .error _ => 0

/-- The exact value of a finite number. -/
def amount (v : Value) : Rat :=
  match v.number? with
  | some (.finite q) => q
  | _ => 0

/-- The exact value of the number with a name, or zero if there is none. -/
def get (m : Amounts) (k : String) : Rat :=
  match m.lookup k with
  | some v => amount v
  | none => 0

/-- The sum of some numbers, each times the other number with its name. -/
def total (c m : Amounts) : Rat :=
  (c.map fun e ↦ amount e.2 * m.get e.1).sum

theorem reading_eq (h : v.measure = .ok x) : reading v = x := by
  rw [reading, h]

theorem amount_eq (h : v.number? = some (.finite q)) : amount v = q := by
  rw [amount, h]

theorem number?_eq_amount (h : ∃ q, v.number? = some (.finite q)) :
    v.number? = some (.finite (amount v)) := by
  obtain ⟨q, hq⟩ := h
  rw [amount_eq hq, hq]

/-! ## Looking up a name -/

theorem lookup_eq_some_iff (h : (m.map Prod.fst).Nodup) : m.lookup k = some v ↔ (k, v) ∈ m := by
  induction m with
  | nil => simp
  | cons e m ih =>
    obtain ⟨k', v'⟩ := e
    obtain ⟨hnotin, hnodup⟩ := List.nodup_cons.mp h
    rw [List.lookup_cons, List.mem_cons]
    by_cases hk : k = k'
    · subst hk
      have hother : (k, v) ∉ m := by
        intro hmem
        exact hnotin (List.mem_map.mpr ⟨_, hmem, rfl⟩)
      simp [hother, eq_comm]
    · rw [beq_false_of_ne hk, ← ih hnodup]
      simp [hk]

theorem lookup_eq_none_iff : m.lookup k = none ↔ k ∉ m.map Prod.fst := by
  simp only [List.lookup_eq_none_iff, bne_iff_ne, List.mem_map, not_exists, not_and]
  exact forall₂_congr fun _ _ ↦ ne_comm

theorem lookup_perm (h : (m.map Prod.fst).Nodup) (hperm : c.Perm m) : c.lookup k = m.lookup k := by
  have hc : (c.map Prod.fst).Nodup := (hperm.map Prod.fst).nodup_iff.mpr h
  refine Option.ext fun v ↦ ?_
  rw [lookup_eq_some_iff hc, lookup_eq_some_iff h, hperm.mem_iff]

theorem get_eq_of_mem (h : (m.map Prod.fst).Nodup) (hv : (k, v) ∈ m) : m.get k = amount v := by
  rw [get, (lookup_eq_some_iff h).mpr hv]

theorem get_eq_zero (hk : k ∉ m.map Prod.fst) : m.get k = 0 := by
  rw [get, lookup_eq_none_iff.mpr hk]

/-! ## Equal mappings -/

theorem exists_alike {es fs : List (Value × Value)} (h : Value.alikeEntries es fs = .ok true) :
    ∀ e ∈ es, ∃ f ∈ fs, Value.same e.1 f.1 = true ∧ Value.alike e.2 f.2 = .ok true := by
  induction es with
  | nil => simp
  | cons e es ih =>
    obtain ⟨k, v⟩ := e
    rw [Value.alikeEntries] at h
    split at h
    next f hf =>
      cases halike : v.alike f.2 with
      | error failure =>
        rw [halike] at h
        cases h
      | ok b =>
        rw [halike] at h
        cases b with
        | false => cases h
        | true =>
          refine List.forall_mem_cons.mpr ⟨?_, ih h⟩
          exact ⟨f, List.mem_of_find?_eq_some hf, by simpa using List.find?_some hf, halike⟩
    next => cases h

theorem Equal.alikeEntries (h : m.Equal m') :
    m.length = m'.length ∧ Value.alikeEntries m.entries m'.entries = .ok true := by
  simp only [Equal, Value.equal, Value.alike] at h
  split at h
  next hlength => exact ⟨by simpa [entries] using hlength, h⟩
  next => cases h

/-- Every number has an equal one with the same name in an equal mapping. -/
theorem Equal.exists_mem (h : m.Equal m') (hv : (k, v) ∈ m) :
    ∃ v', (k, v') ∈ m' ∧ v.alike v' = .ok true := by
  obtain ⟨f, hf, hname, halike⟩ :=
    exists_alike h.alikeEntries.2 (.text k, v) (List.mem_map.mpr ⟨_, hv, rfl⟩)
  obtain ⟨⟨k', v'⟩, hv', rfl⟩ := List.mem_map.mp hf
  have hk := Value.same_text_iff.mp hname
  cases hk
  exact ⟨v', hv', halike⟩

/-- A name with the real number that is read. -/
def exactReading (e : String × Value) : String × Exact :=
  (e.1, .ofFloat (reading e.2))

theorem Equal.exactReadings_perm (h : m.Equal m') (hm : m.IsMapping) (hm' : m'.IsMapping)
    (hread : m.Readable) (hread' : m'.Readable) :
    (m.map exactReading).Perm (m'.map exactReading) := by
  have hnodup : (m.map exactReading).Nodup := by
    refine List.Nodup.of_map Prod.fst ?_
    rw [List.map_map]
    exact hm.nodup
  have hsub : m.map exactReading ⊆ m'.map exactReading := by
    intro r hr
    obtain ⟨⟨k, v⟩, hv, rfl⟩ := List.mem_map.mp hr
    obtain ⟨v', hv', halike⟩ := h.exists_mem hv
    obtain ⟨q, hq⟩ := hm.finite _ hv
    obtain ⟨q', hq'⟩ := hm'.finite _ hv'
    obtain ⟨x, hx⟩ := hread _ hv
    obtain ⟨x', hx'⟩ := hread' _ hv'
    refine List.mem_map.mpr ⟨(k, v'), hv', ?_⟩
    simp only [exactReading, reading_eq hx, reading_eq hx', Value.measure_congr hq hq' halike hx hx']
  refine (List.subperm_of_subset hnodup hsub).perm_of_length_le ?_
  simp [h.alikeEntries.1]

/-! ## Weighted sums -/

/-- Every number is the value of a real one. -/
def Kept (m : Amounts) : Prop :=
  ∀ e ∈ m, Number.Kept (amount e.2)

theorem Kept.readable (h : m.Kept) (hm : m.IsMapping) : m.Readable := by
  intro e he
  obtain ⟨x, hx, -⟩ := Value.measure_exact (number?_eq_amount (hm.finite e he)) (h e he)
  exact ⟨x, hx⟩

theorem Kept.exact_reading (h : m.Kept) (hm : m.IsMapping) {e : String × Value} (he : e ∈ m) :
    Exact.ofFloat (reading e.2) = .finite (amount e.2) := by
  obtain ⟨x, hx, hexact⟩ := Value.measure_exact (number?_eq_amount (hm.finite e he)) (h e he)
  rw [reading_eq hx, hexact]

theorem Equal.names_perm (h : m.Equal m') (hm : m.IsMapping) (hm' : m'.IsMapping)
    (hread : m.Readable) (hread' : m'.Readable) : (m.map Prod.fst).Perm (m'.map Prod.fst) := by
  have hperm := (h.exactReadings_perm hm hm' hread hread').map Prod.fst
  rwa [List.map_map, List.map_map] at hperm

theorem Equal.get_eq (h : m.Equal m') (hm : m.IsMapping) (hm' : m'.IsMapping) (hkept : m.Kept)
    (hkept' : m'.Kept) (k : String) : m.get k = m'.get k := by
  have hread := hkept.readable hm
  have hread' := hkept'.readable hm'
  by_cases hk : k ∈ m.map Prod.fst
  · obtain ⟨⟨k, v⟩, hv, rfl⟩ := List.mem_map.mp hk
    obtain ⟨e', he', heq⟩ := List.mem_map.mp
      ((h.exactReadings_perm hm hm' hread hread').subset (List.mem_map_of_mem hv))
    obtain ⟨hname, hreading⟩ := Prod.mk.inj heq
    rw [hkept'.exact_reading hm' he', hkept.exact_reading hm hv] at hreading
    rw [get_eq_of_mem hm.nodup hv, ← Exact.finite.inj hreading]
    exact (get_eq_of_mem hm'.nodup (hname ▸ he')).symm
  · have hnames := h.names_perm hm hm' hread hread'
    rw [get_eq_zero hk, get_eq_zero fun hk' ↦ hk (hnames.symm.subset hk')]

theorem total_eq_sum (hc : c.IsMapping) (m : Amounts) :
    c.total m = ((c.map Prod.fst).map fun k ↦ c.get k * m.get k).sum := by
  rw [total, List.map_map]
  refine congrArg List.sum (List.map_congr_left fun e he ↦ ?_)
  rw [Function.comp_apply, get_eq_of_mem hc.nodup he]

/-- Weighing needs no rounding: the numbers that take part are the values of real ones, and so are
the products and the sums that come up on the way. -/
structure Unrounded (c m : Amounts) : Prop where
  coefficients : c.Kept
  amounts : m.Kept
  products : ∀ e ∈ c, Number.Kept (amount e.2 * m.get e.1)
  sums : ∀ c', c' <+: c → Number.Kept (total c' m)

theorem total_append_singleton (c m : Amounts) (e : String × Value) :
    total (c ++ [e]) m = c.total m + amount e.2 * m.get e.1 := by
  simp [total]

/-- Equal mappings have equal sums, in whatever order their entries stand. -/
theorem total_congr (hc : c.IsMapping) (hc' : c'.IsMapping) (hm : m.IsMapping) (hm' : m'.IsMapping)
    (hcequal : c.Equal c') (hmequal : m.Equal m') (hexact : c.Unrounded m)
    (hexact' : c'.Unrounded m') : c.total m = c'.total m' := by
  have hcget := hcequal.get_eq hc hc' hexact.coefficients hexact'.coefficients
  have hmget := hmequal.get_eq hm hm' hexact.amounts hexact'.amounts
  have hnames := hcequal.names_perm hc hc' (hexact.coefficients.readable hc)
    (hexact'.coefficients.readable hc')
  calc c.total m
      = ((c.map Prod.fst).map fun k ↦ c.get k * m.get k).sum := total_eq_sum hc m
    _ = ((c'.map Prod.fst).map fun k ↦ c.get k * m.get k).sum := (hnames.map _).sum_eq
    _ = ((c'.map Prod.fst).map fun k ↦ c'.get k * m'.get k).sum := by
      refine congrArg List.sum (List.map_congr_left fun k _ ↦ ?_)
      rw [hcget, hmget]
    _ = c'.total m' := (total_eq_sum hc' m').symm

end Amounts

end Loadout
