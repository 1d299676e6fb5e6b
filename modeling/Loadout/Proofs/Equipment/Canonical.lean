import Loadout.Proofs.Equipment.Creation

/-!
# Equipment is canonical

Equipment does not depend on how its slots are spelled or on the order of its bonuses, its bonuses are
those that it was created with, and its weights are sums of them: `create_canonical`.  A sum is
exact where nothing is rounded on the way, `weight_yields`.

A whole number can be too large to be read as a real one.  There is no equipment with such a bonus,
`create_unreadable`.
-/

namespace Loadout

open Number (Exact)

namespace Equipment

variable {id name : Value} {slots slots' : List Value} {occupied occupied' : List Slot}
variable {c c' m m' sorted sorted' : Amounts} {k : String}

/-! ## Bonuses -/

theorem findM?_readEntry (sorted : Amounts) (k : String) :
    ((sorted.map readEntry).findM? fun (key, _) ↦ key.equal (.text k)) =
      .ok ((sorted.lookup k).map fun v ↦ readEntry (k, v)) := by
  induction sorted with
  | nil => rfl
  | cons e sorted ih =>
    obtain ⟨k', v⟩ := e
    rw [List.map_cons, List.findM?, List.lookup_cons]
    change ((Value.text k').alike (.text k) >>= fun _ ↦ _) = _
    rw [alike_text]
    by_cases hk : k' = k
    · subst hk
      rw [beq_self_eq_true]
      rfl
    · rw [beq_false_of_ne hk, beq_false_of_ne (Ne.symm hk)]
      exact ih

theorem bonus_ofParts (sorted : Amounts) (k : String) :
    (ofParts id name occupied sorted).bonus (.text k) =
      .ok (match sorted.lookup k with
        | some v => .real (Amounts.reading v)
        | none => .real 0) := by
  rw [bonus, ofParts, findM?_readEntry]
  cases sorted.lookup k <;> rfl

/-- A bonus that is not rounded is that of the mapping. -/
theorem bonus_isReal (hm : m.IsMapping) (hkept : m.Kept) (hperm : sorted.Perm m) (k : String) :
    Yields ((ofParts id name occupied sorted).bonus (.text k)) (Value.IsReal · (m.get k)) := by
  rw [bonus_ofParts, Amounts.lookup_perm hm.nodup hperm]
  refine ⟨_, rfl, ?_⟩
  cases hv : m.lookup k with
  | none =>
    rw [Amounts.get, hv]
    exact ⟨0, .inl rfl, by decide +kernel⟩
  | some v =>
    have hmem := (Amounts.lookup_eq_some_iff hm.nodup).mp hv
    rw [Amounts.get, hv]
    exact ⟨_, .inl rfl, hkept.exact_reading hm hmem⟩

/-! ## Weights -/

/-- Adding up goes through the coefficients in their order, and each sum on the way is exact. -/
theorem weight_yields (hm : m.IsMapping) (hc : c.IsMapping) (hexact : c.Unrounded m)
    (hperm : sorted.Perm m) (c' : Amounts) (hbegins : c' <+: c) :
    Yields ((ofParts id name occupied sorted).weight c'.entries)
      fun w ↦ w.number? = some (.finite (c'.total m)) := by
  induction c' using List.reverseRecOn with
  | nil => exact ⟨_, rfl, rfl⟩
  | append_singleton c' e ih =>
    obtain ⟨k, v⟩ := e
    have he : (k, v) ∈ c := hbegins.subset (by simp)
    have hbefore : c' <+: c := (List.prefix_append c' [(k, v)]).trans hbegins
    rw [weight, Amounts.entries, List.map_append, List.foldlM_append, ← Amounts.entries, ← weight]
    refine (ih hbefore).bind fun w hw ↦ ?_
    change Yields (((ofParts id name occupied sorted).bonus (.text k) >>= fun b ↦
      v.mul b >>= fun term ↦ w.add term) >>= pure) _
    have hv := Amounts.number?_eq_amount (hc.finite (k, v) he)
    have hsum := hexact.sums _ hbegins
    rw [Amounts.total_append_singleton] at hsum ⊢
    refine Yields.bind ?_ fun _ h ↦ .pure h
    refine (bonus_isReal hm hexact.amounts hperm k).bind fun b hb ↦ ?_
    have hterm := Value.mul_exact hv (hexact.coefficients _ he) hb (hexact.products _ he)
    refine hterm.bind fun term hterm ↦ ?_
    exact (Value.add_exact hw (hexact.sums c' hbefore) hterm hsum).mono fun _ h ↦ h.number?_eq

/-- The bonuses of a piece of equipment are those of a mapping, and its weights are exact sums of them
where nothing is rounded. -/
structure HasBonuses (e : Equipment) (m : Amounts) : Prop where
  named : ∀ k v x, (k, v) ∈ m → v.measure = .ok x → e.bonus (.text k) = .ok (.real x)
  other : ∀ k, k ∉ m.map Prod.fst → e.bonus (.text k) = .ok (.real 0)
  weight : ∀ c : Amounts, c.IsMapping → c.Unrounded m →
    Yields (Value.bonusWeight c.entries e.toValue) fun w ↦ w.number? = some (.finite (c.total m))

theorem hasBonuses_ofParts (hm : m.IsMapping) (hperm : sorted.Perm m) :
    HasBonuses (ofParts id name occupied sorted) m where
  named k v x hv hx := by
    rw [bonus_ofParts, Amounts.lookup_perm hm.nodup hperm,
      (Amounts.lookup_eq_some_iff hm.nodup).mpr hv, ← Amounts.reading_eq hx]
  other k hk := by
    rw [bonus_ofParts, Amounts.lookup_perm hm.nodup hperm, Amounts.lookup_eq_none_iff.mpr hk]
  weight c hc hexact := weight_yields hm hc hexact hperm c (List.prefix_refl c)

/-- Equipment that is created from spellings of the same slots and from equal mappings is equal and one
vertex; its bonuses are read back, and its weights are the same in every order. -/
theorem create_canonical (hid : Identifying id) (hname : Identifying name)
    (hslots : List.Forall₂ Slot.Spells occupied slots)
    (hslots' : List.Forall₂ Slot.Spells occupied' slots')
    (hsame : ∀ s, s ∈ occupied ↔ s ∈ occupied') (hne : occupied ≠ []) (hm : m.IsMapping)
    (hm' : m'.IsMapping) (hread : m.Readable) (hread' : m'.Readable) (hequal : m.Equal m') :
    ∃ e e', create id name slots m.entries = pure e ∧ create id name slots' m'.entries = pure e' ∧
      OneVertex e.toValue e'.toValue ∧ HasBonuses e m ∧ HasBonuses e' m' ∧
      ∀ c c' : Amounts, c.IsMapping → c'.IsMapping → c.Equal c' → c.Unrounded m → c'.Unrounded m' →
        Yields (Value.bonusWeight c'.entries e'.toValue)
          fun w ↦ w.number? = some (.finite (c.total m)) := by
  have hne' : occupied' ≠ [] := by
    obtain ⟨s, hs⟩ := List.exists_mem_of_ne_nil _ hne
    exact List.ne_nil_of_mem ((hsame s).mp hs)
  obtain ⟨sorted, hperm, hsorted, hcreate⟩ := create_eq id name hslots hne hm hread
  obtain ⟨sorted', hperm', hsorted', hcreate'⟩ :=
    create_eq id name hslots' hne' hm' hread'
  have heq := exactReadings_eq hm hm' hread hread' hequal hperm hperm' hsorted hsorted'
  have hbonuses' : HasBonuses (ofParts id name occupied' sorted') m' := hasBonuses_ofParts hm' hperm'
  refine ⟨_, _, hcreate, hcreate', ?_, hasBonuses_ofParts hm hperm, hbonuses', ?_⟩
  · exact oneVertex_ofParts hid hname hsame heq
      (fun e he ↦ isNaN_reading hm hread (hperm.subset he))
      fun e he ↦ isNaN_reading hm' hread' (hperm'.subset he)
  · intro c c' hc hc' hcequal hexact hexact'
    rw [Amounts.total_congr hc hc' hm hm' hcequal hequal hexact hexact']
    exact hbonuses'.weight c' hc' hexact'

/-! ## Sample equipment -/

namespace Sample

/-- Spellings of two slots. -/
def spelled : List Value :=
  [.text " Head", .slot .ring]

/-- Other spellings of them. -/
def spelledAgain : List Value :=
  [.text "RING\t", .text "head", .text "hEaD"]

def bonuses : Amounts :=
  [("attack", .integer 3), ("defence", .real 0.5)]

def bonusesAgain : Amounts :=
  [("defence", .real 0.5), ("attack", .real 3)]

def coefficients : Amounts :=
  [("defence", .real 0.5), ("speed", .integer 7), ("attack", .integer 2)]

theorem spells_spelled : List.Forall₂ Slot.Spells [.head, .ring] spelled :=
  .cons (.inr ⟨[' '], ['H', 'e', 'a', 'd'], [], rfl,
    List.forall_mem_singleton.mpr rfl, by simp, by decide⟩)
    (.cons (.inl rfl) .nil)

theorem spells_spelledAgain : List.Forall₂ Slot.Spells [.ring, .head, .head] spelledAgain :=
  .cons (.inr ⟨[], ['R', 'I', 'N', 'G'], ['\t'], rfl, by simp,
    List.forall_mem_singleton.mpr rfl, by decide⟩)
    (.cons (.inr ⟨[], ['h', 'e', 'a', 'd'], [], rfl, by simp, by simp, by decide⟩)
      (.cons (.inr ⟨[], ['h', 'E', 'a', 'D'], [], rfl, by simp, by simp, by decide⟩) .nil))

theorem isMapping_bonuses : bonuses.IsMapping where
  nodup := by decide
  finite e he := by
    rcases he with _ | ⟨_, _ | ⟨_, ⟨⟩⟩⟩
    · exact ⟨3, by decide +kernel⟩
    · exact ⟨1 / 2, by decide +kernel⟩

theorem isMapping_bonusesAgain : bonusesAgain.IsMapping where
  nodup := by decide
  finite e he := by
    rcases he with _ | ⟨_, _ | ⟨_, ⟨⟩⟩⟩
    · exact ⟨1 / 2, by decide +kernel⟩
    · exact ⟨3, by decide +kernel⟩

theorem kept_bonuses : bonuses.Kept := by
  intro e he
  rcases he with _ | ⟨_, _ | ⟨_, ⟨⟩⟩⟩
  · exact ⟨3, by decide +kernel⟩
  · exact ⟨0.5, by decide +kernel⟩

theorem kept_bonusesAgain : bonusesAgain.Kept := by
  intro e he
  rcases he with _ | ⟨_, _ | ⟨_, ⟨⟩⟩⟩
  · exact ⟨0.5, by decide +kernel⟩
  · exact ⟨3, by decide +kernel⟩

theorem equal_bonuses : bonuses.Equal bonusesAgain := by
  with_unfolding_all rfl

theorem kept_coefficients : coefficients.Kept := by
  intro e he
  rcases he with _ | ⟨_, _ | ⟨_, _ | ⟨_, ⟨⟩⟩⟩⟩
  · exact ⟨0.5, by decide +kernel⟩
  · exact ⟨7, by decide +kernel⟩
  · exact ⟨2, by decide +kernel⟩

theorem unrounded_coefficients : coefficients.Unrounded bonuses where
  coefficients := kept_coefficients
  amounts := kept_bonuses
  products e he := by
    rcases he with _ | ⟨_, _ | ⟨_, _ | ⟨_, ⟨⟩⟩⟩⟩
    · exact ⟨0.25, by decide +kernel⟩
    · exact ⟨0, by decide +kernel⟩
    · exact ⟨6, by decide +kernel⟩
  sums c' hc' := by
    rcases (List.mem_inits c' _).mpr hc' with _ | ⟨_, _ | ⟨_, _ | ⟨_, _ | ⟨_, ⟨⟩⟩⟩⟩⟩
    · exact ⟨0, by decide +kernel⟩
    · exact ⟨0.25, by decide +kernel⟩
    · exact ⟨0.25, by decide +kernel⟩
    · exact ⟨6.25, by decide +kernel⟩

theorem isMapping_coefficients : coefficients.IsMapping where
  nodup := by decide
  finite e he := by
    rcases he with _ | ⟨_, _ | ⟨_, _ | ⟨_, ⟨⟩⟩⟩⟩
    · exact ⟨1 / 2, by decide +kernel⟩
    · exact ⟨7, by decide +kernel⟩
    · exact ⟨2, by decide +kernel⟩

/-- A whole number beyond all real ones. -/
def huge : Int :=
  10 ^ 400

end Sample

theorem create_canonical_sample :
    Identifying (.integer 1) ∧ Identifying (.text "crown") ∧
      List.Forall₂ Slot.Spells [.head, .ring] Sample.spelled ∧
      List.Forall₂ Slot.Spells [.ring, .head, .head] Sample.spelledAgain ∧
      (∀ s : Slot, s ∈ [.head, .ring] ↔ s ∈ [.ring, .head, .head]) ∧ [Slot.head, .ring] ≠ [] ∧
      Sample.bonuses.IsMapping ∧ Sample.bonusesAgain.IsMapping ∧ Sample.bonuses.Readable ∧
      Sample.bonusesAgain.Readable ∧ Sample.bonuses.Equal Sample.bonusesAgain ∧
      ∃ e e', create (.integer 1) (.text "crown") Sample.spelled Sample.bonuses.entries = pure e ∧
        create (.integer 1) (.text "crown") Sample.spelledAgain Sample.bonusesAgain.entries = pure e' ∧
        OneVertex e.toValue e'.toValue ∧ HasBonuses e Sample.bonuses ∧
        HasBonuses e' Sample.bonusesAgain ∧
        Yields (Value.bonusWeight Sample.coefficients.entries e.toValue)
          fun w ↦ w.number? = some (.finite (25 / 4)) := by
  have hid : Identifying (.integer 1) := .of_ordinary (.integer 1) (.integer 1) rfl
  have hname : Identifying (.text "crown") := .of_ordinary (.text _) (.text _) rfl
  have hsame : ∀ s : Slot, s ∈ [.head, .ring] ↔ s ∈ [.ring, .head, .head] := by
    intro s
    cases s <;> decide
  have hread := Sample.kept_bonuses.readable Sample.isMapping_bonuses
  have hread' := Sample.kept_bonusesAgain.readable Sample.isMapping_bonusesAgain
  obtain ⟨e, e', he, he', hone, hbonuses, hbonuses', -⟩ := create_canonical hid hname
    Sample.spells_spelled Sample.spells_spelledAgain hsame (by decide) Sample.isMapping_bonuses
    Sample.isMapping_bonusesAgain hread hread' Sample.equal_bonuses
  have htotal : Sample.coefficients.total Sample.bonuses = 25 / 4 := by decide +kernel
  have hweight := hbonuses.weight _ Sample.isMapping_coefficients Sample.unrounded_coefficients
  rw [htotal] at hweight
  exact ⟨hid, hname, Sample.spells_spelled, Sample.spells_spelledAgain, hsame, by decide,
    Sample.isMapping_bonuses, Sample.isMapping_bonusesAgain, hread, hread', Sample.equal_bonuses,
    e, e', he, he', hone, hbonuses, hbonuses', hweight⟩

/-- A finite number that is too large makes creating equipment fail. -/
theorem create_unreadable :
    Amounts.IsMapping [("a", .integer Sample.huge)] ∧ Slot.Spells .head (.text "head") ∧
      ∀ caller, (create (.integer 1) (.text "x") [.text "head"]
        (Amounts.entries [("a", .integer Sample.huge)]) caller).1 = .error .tooLarge := by
  refine ⟨⟨by decide, fun e he ↦ ?_⟩, ?_, fun caller ↦ ?_⟩
  · rcases he with _ | ⟨_, ⟨⟩⟩
    exact ⟨_, rfl⟩
  · exact .inr ⟨[], ['h', 'e', 'a', 'd'], [], rfl, by simp, by simp, by decide⟩
  · have hlarge : Quantity.roundInt Sample.huge = .error .tooLarge := by
      have hinfinite : (Number.nearestReal Sample.huge).isInf = true := by decide +kernel
      rw [Quantity.roundInt, hinfinite]
      rfl
    have hread : readBonus (.integer Sample.huge) = Call.ofExcept (.error .tooLarge) := by
      have hreal : (Value.integer Sample.huge).toReal = .error .tooLarge := by
        change Value.real <$> Quantity.roundInt Sample.huge = _
        rw [hlarge]
        rfl
      rw [readBonus, hreal]
      rfl
    have hslots : [Value.text "head"].mapM Slot.ofSpelling = .ok [.head] := rfl
    rw [create, hslots, Amounts.entries, List.map_singleton]
    simp only [List.mapM_cons, hread]
    rfl

end Equipment

end Loadout
