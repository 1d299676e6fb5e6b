import Loadout.Proofs.Entry.Queries
import Loadout.Proofs.Equipment.Amounts
import Loadout.Proofs.Equipment.Spelling
import Loadout.Proofs.Sort.Runs
import Loadout.Proofs.Value.Equality
import Mathlib.Data.String.Basic

/-!
# Equipment that is created

Equipment is created from spellings of its slots and a mapping of its bonuses: what it occupies are the
different slots, and what it has are the bonuses, read as real numbers and sorted, `create_eq`.
Sorting forgets the order of the mapping, `exactReadings_eq`; so equipment that is created from
spellings of the same slots and equal mappings is equal, and one vertex of a graph,
`oneVertex_ofParts`.
-/

namespace Loadout

open Number (Exact)
open Value (Ordinary Comparable)

namespace Equipment

variable {id name : Value} {slots slots' : List Value} {occupied occupied' : List Slot}
variable {c c' m m' sorted sorted' : Amounts} {k : String}

/-! ## Slots -/

theorem mapM_ofSpelling (h : List.Forall₂ Slot.Spells occupied slots) :
    slots.mapM Slot.ofSpelling = .ok occupied :=
  mapM_eq_pure_of_forall₂ (h.flip.imp fun _ _ hs ↦ Slot.Spells.ofSpelling_eq hs)

/-! ## Bonuses -/

/-- A bonus as it is kept. -/
def readEntry (e : String × Value) : Value × Value :=
  (.text e.1, .real (Amounts.reading e.2))

theorem mapM_readBonus (hm : m.IsMapping) (hread : m.Readable) :
    (m.entries.mapM fun (key, bonus) ↦ return (key, ← readBonus bonus)) =
      (pure (m.map readEntry) : Call Caller (List (Value × Value))) := by
  have hstep {e : String × Value} (he : e ∈ m) : (do return (Value.text e.1, ← readBonus e.2)) =
      (pure (readEntry e) : Call Caller (Value × Value)) := by
    obtain ⟨q, hq⟩ := hm.finite e he
    obtain ⟨x, hx⟩ := hread e he
    rw [readBonus_eq hq hx, readEntry, Amounts.reading_eq hx]
    rfl
  rw [Amounts.entries, List.mapM_map]
  exact mapM_eq_pure fun e he ↦ hstep he

/-- The name of a bonus that is kept. -/
def nameOf : Value × Value → String
  | (.text s, _) => s
  | _ => ""

theorem alike_text (k k' : String) : (Value.text k).alike (.text k') = .ok (k == k') := by
  rw [(Ordinary.text k).alike_eq (.text k'), Value.same]

theorem isNaN_reading (hm : m.IsMapping) (hread : m.Readable) {e : String × Value} (he : e ∈ m) :
    (Amounts.reading e.2).isNaN = false := by
  obtain ⟨q, hq⟩ := hm.finite e he
  obtain ⟨x, hx⟩ := hread e he
  obtain ⟨a, -, ha, hmeasure⟩ := Value.exists_quantity hq
  rw [Amounts.reading_eq hx]
  exact (ha ▸ a.roundsTo_toReal (hmeasure ▸ hx)).isNaN

theorem alike_real_self {x : Float} (h : x.isNaN = false) :
    (Value.real x).alike (.real x) = .ok true := by
  rw [(Ordinary.real x).alike_eq (.real x)]
  exact congrArg Except.ok (Comparable.number rfl (Number.exact_ne_undefined h)).same_self

/-- Bonuses with different names are in the order of their names. -/
theorem pairBelow_decides (hm : m.IsMapping) (hread : m.Readable) :
    Sort.Decides pairBelow nameOf (· ∈ m.map readEntry) := by
  intro a ha b hb
  obtain ⟨⟨k, v⟩, hv, rfl⟩ := List.mem_map.mp ha
  obtain ⟨⟨k', v'⟩, hv', rfl⟩ := List.mem_map.mp hb
  simp only [pairBelow, readEntry, Value.compareAll, alike_text]
  by_cases hk : k = k'
  · -- one name has one bonus, which is compared with itself
    subst hk
    have hlookup := (Amounts.lookup_eq_some_iff hm.nodup).mpr hv
    obtain rfl : v = v' :=
      Option.some.inj (hlookup.symm.trans ((Amounts.lookup_eq_some_iff hm.nodup).mpr hv'))
    rw [alike_real_self (isNaN_reading hm hread hv), beq_self_eq_true]
    exact congrArg Except.ok (decide_eq_false (lt_irrefl k)).symm
  · rw [beq_false_of_ne hk]
    change Value.compare .lt _ _ = _
    rw [Value.compare]
    rfl

/-- What is kept of the bonuses of a mapping are its entries, sorted. -/
theorem sort_readings (hm : m.IsMapping) (hread : m.Readable) :
    ∃ sorted : Amounts, Sort.sort pairBelow (m.map readEntry) = .ok (sorted.map readEntry) ∧
      sorted.Perm m ∧ Sort.Sorted Prod.fst sorted := by
  obtain ⟨ys, hsort, hperm, hsorted⟩ := Sort.sort_yields (pairBelow_decides hm hread)
  have hforall : List.Forall₂ (fun y e ↦ y = readEntry e) (m.map readEntry) m :=
    List.forall₂_map_left_iff.mpr (List.forall₂_same.mpr fun _ _ ↦ rfl)
  obtain ⟨sorted, hys, hm⟩ := List.perm_comp_forall₂ hperm hforall
  obtain rfl : ys = sorted.map readEntry :=
    eq_map_of_forall₂ (hys.flip)
  have hnames := List.pairwise_map.mp hsorted
  exact ⟨sorted, hsort, hm, hnames⟩

/-! ## Creation -/

/-- Equipment that occupies some slots and has some bonuses. -/
def ofParts (id name : Value) (occupied : List Slot) (bonuses : Amounts) : Equipment where
  id
  name
  slots := occupied.eraseDups.map .slot
  bonuses := bonuses.map readEntry

/-- Equipment is created from spelled slots and a mapping of bonuses, whatever state the caller is
in. -/
theorem create_eq (id name : Value) (hslots : List.Forall₂ Slot.Spells occupied slots)
    (hne : occupied ≠ []) (hm : m.IsMapping) (hread : m.Readable) :
    ∃ sorted : Amounts, sorted.Perm m ∧ Sort.Sorted Prod.fst sorted ∧
      create id name slots m.entries = pure (ofParts id name occupied sorted) := by
  obtain ⟨sorted, hsort, hperm, hsorted⟩ := sort_readings hm hread
  refine ⟨sorted, hperm, hsorted, ?_⟩
  have hnonempty : occupied.isEmpty = false := by simpa using hne
  rw [create, mapM_ofSpelling hslots]
  change (if occupied.isEmpty = true then _ else _) = _
  rw [hnonempty, if_neg Bool.false_ne_true]
  funext caller
  rw [Call.bind_apply, mapM_readBonus hm hread, Call.pure_apply]
  change (Call.ofExcept (Sort.sort pairBelow (m.map readEntry)) >>= fun _ ↦ _) caller = _
  rw [Call.bind_apply, hsort]
  rfl

/-! ## Equality -/

/-- Different slots of two lists with the same slots. -/
theorem slots_same (hsame : ∀ s, s ∈ occupied ↔ s ∈ occupied') :
    (occupied.eraseDups.map Value.slot).length = (occupied'.eraseDups.map Value.slot).length ∧
      ∀ s ∈ occupied.eraseDups.map Value.slot, ∃ t ∈ occupied'.eraseDups.map Value.slot,
        Value.same s t = true := by
  have hperm : occupied.eraseDups.Perm occupied'.eraseDups := by
    refine (List.perm_ext_iff_of_nodup (distinct_eraseDups _).nodup (distinct_eraseDups _).nodup).mpr
      fun s ↦ ?_
    rw [List.mem_eraseDups, List.mem_eraseDups, hsame]
  refine ⟨by simpa using hperm.length_eq, fun s hs ↦ ⟨s, (hperm.map _).subset hs, ?_⟩⟩
  obtain ⟨slot, -, rfl⟩ := List.mem_map.mp hs
  exact Value.same_slot_iff.mpr rfl

/-- Sorted bonuses of equal mappings are read as the same real numbers. -/
theorem exactReadings_eq (hm : m.IsMapping) (hm' : m'.IsMapping) (hread : m.Readable)
    (hread' : m'.Readable) (hequal : m.Equal m') (hperm : sorted.Perm m) (hperm' : sorted'.Perm m')
    (hsorted : Sort.Sorted Prod.fst sorted) (hsorted' : Sort.Sorted Prod.fst sorted') :
    sorted.map Amounts.exactReading = sorted'.map Amounts.exactReading := by
  have hleft : Sort.Sorted Prod.fst (sorted.map Amounts.exactReading) :=
    List.pairwise_map.mpr hsorted
  have hright : Sort.Sorted Prod.fst (sorted'.map Amounts.exactReading) :=
    List.pairwise_map.mpr hsorted'
  refine hleft.eq_of_perm hright ?_ ?_
  · exact (hperm.map _).trans ((hequal.exactReadings_perm hm hm' hread hread').trans
      (hperm'.map _).symm)
  · rw [List.map_map]
    exact (hperm.map Prod.fst).nodup_iff.mpr hm.nodup

/-- Bonuses that are read as the same real numbers are the same. -/
theorem readEntries_same (heq : sorted.map Amounts.exactReading = sorted'.map Amounts.exactReading)
    (hdefined : ∀ e ∈ sorted, (Amounts.reading e.2).isNaN = false) :
    List.Forall₂ (fun e f ↦ Value.same e.1 f.1 = true ∧ Value.same e.2 f.2 = true)
      (sorted.map readEntry) (sorted'.map readEntry) := by
  have hforall := List.forall₂_eq_eq_eq ▸ heq
  rw [List.forall₂_map_left_iff, List.forall₂_map_right_iff] at hforall ⊢
  refine ((List.forall₂_and_left _ _).mpr ⟨hdefined, hforall⟩).imp fun e e' ⟨he, hreading⟩ ↦ ?_
  obtain ⟨hname, hexact⟩ := Prod.mk.inj hreading
  exact ⟨Value.same_text_iff.mpr (congrArg Value.text hname.symm),
    (Value.same_number_iff rfl (Number.exact_ne_undefined he)).mpr (congrArg some hexact.symm)⟩

/-- A value that can be an element of a set, and is equal to itself. -/
structure Identifying (v : Value) : Prop where
  comparable : Comparable v
  hashable : v.changeable? = none
  alike_self : v.alike v = .ok true

theorem Identifying.of_ordinary {v : Value} (hv : Ordinary v) (hcomparable : Comparable v)
    (hhashable : v.changeable? = none) : Identifying v where
  comparable := hcomparable
  hashable := hhashable
  alike_self := (hv.alike_eq hv).trans (congrArg Except.ok hcomparable.same_self)

/-- Two values are equal and become one vertex of a graph. -/
structure OneVertex (v v' : Value) : Prop where
  equal : v.equal v' = .ok true
  equal_symm : v'.equal v = .ok true
  distinct : Value.distinct [v, v'] = .ok [v]
  /-- Every graph of comparable vertices with both among them has both at one index. -/
  index : ∀ (vertices : Value) (xs : List Value) (r : ValueRelation) (p : Value → Value → Bool),
    requireCollection "vertices" vertices = .ok vertices → (∀ a ∈ xs, Comparable a) →
    (∀ a ∈ xs, a.changeable? = none) →
    (∀ a ∈ xs, ∀ b ∈ xs, Call.Ends (r.holds a b) (· = p a b) fun _ ↦ False) → v ∈ xs → v' ∈ xs →
    Call.Triple (fun w ↦ (vertices.elements w.caller).1 = .ok xs)
      (Entry.build vertices (.function r))
      (fun g _ ↦ ∃ i, (Entry.indexOf g v).Answers i ∧ (Entry.indexOf g v').Answers i)
      fun _ _ ↦ False

theorem alikePairs_of_same {es fs : Amounts}
    (h : List.Forall₂ (fun e f ↦ Value.same e.1 f.1 = true ∧ Value.same e.2 f.2 = true)
      (es.map readEntry) (fs.map readEntry)) :
    Value.alikePairs (es.map readEntry) (fs.map readEntry) = .ok true := by
  have hnames {l : Amounts} : ∀ e ∈ l.map readEntry, Ordinary e.1 := by
    intro e he
    obtain ⟨f, -, rfl⟩ := List.mem_map.mp he
    exact .text f.1
  have hamounts {l : Amounts} : ∀ e ∈ l.map readEntry, Ordinary e.2 := by
    intro e he
    obtain ⟨f, -, rfl⟩ := List.mem_map.mp he
    exact .real _
  rw [Ordinary.alikePairs_eq hnames hamounts (fun e he y hy ↦ (hnames e he).alike_eq hy)
    fun e he y hy ↦ (hamounts e he).alike_eq hy, Value.sameEntries_iff.mpr h]

theorem equal_ofParts (hid : Identifying id) (hname : Identifying name)
    (hslots : ∀ s, s ∈ occupied ↔ s ∈ occupied')
    (heq : sorted.map Amounts.exactReading = sorted'.map Amounts.exactReading)
    (hdefined : ∀ e ∈ sorted, (Amounts.reading e.2).isNaN = false) :
    (ofParts id name occupied sorted).toValue.equal (ofParts id name occupied' sorted').toValue =
        .ok true ∧
      ((ofParts id name occupied sorted).toValue == (ofParts id name occupied' sorted').toValue) =
        true := by
  have hsame := slots_same hslots
  have hbonuses := readEntries_same heq hdefined
  constructor
  · simp only [toValue, ofParts, Value.equal, Value.alike, hid.alike_self, hname.alike_self]
    rw [hsame.1, beq_self_eq_true, Value.allIn_iff.mpr hsame.2, alikePairs_of_same hbonuses]
    rfl
  · exact Value.same_equipment_iff.mpr ⟨_, _, _, _, rfl, hid.comparable.same_self,
      hname.comparable.same_self, hsame, hbonuses⟩

theorem changeable?_ofParts (hid : Identifying id) (hname : Identifying name) :
    (ofParts id name occupied sorted).toValue.changeable? = none := by
  have hpairs : Value.changeablePair? (sorted.map readEntry) = none := by
    induction sorted with
    | nil => rfl
    | cons e sorted ih =>
      rw [List.map_cons, readEntry, Value.changeablePair?, ih]
      rfl
  rw [toValue, ofParts, Value.changeable?, hid.hashable, hname.hashable, hpairs]
  rfl

theorem comparable_ofParts (hid : Identifying id) (hname : Identifying name)
    (hdefined : ∀ e ∈ sorted, (Amounts.reading e.2).isNaN = false) :
    Comparable (ofParts id name occupied sorted).toValue := by
  refine .equipment hid.comparable hname.comparable ?_ ?_ ?_ ?_
  · intro s hs
    obtain ⟨slot, -, rfl⟩ := List.mem_map.mp hs
    exact .slot slot
  · refine List.pairwise_map.mpr ((distinct_eraseDups occupied).imp fun {s t} hst ↦ ?_)
    rwa [← Value.same] at hst
  · intro e he
    obtain ⟨f, -, rfl⟩ := List.mem_map.mp he
    exact .text f.1
  · intro e he
    obtain ⟨f, hf, rfl⟩ := List.mem_map.mp he
    exact .number rfl (Number.exact_ne_undefined (hdefined f hf))

theorem OneVertex.of_same {v v' : Value} (hv : Comparable v)
    (hhashable : v.changeable? = none) (hhashable' : v'.changeable? = none)
    (hsame : (v == v') = true) (hequal : v.equal v' = .ok true) (hequal' : v'.equal v = .ok true) :
    OneVertex v v' where
  equal := hequal
  equal_symm := hequal'
  distinct := by
    have helement : ∀ a ∈ [v, v'], a.beElement = .ok () := by
      simp [Value.beElement, hhashable, hhashable']
    have hback : (v' == v) = true := hv.same_symm hsame
    rw [Value.distinct_eq helement, List.eraseDups_cons, List.filter_cons_of_neg (by simp [hback])]
    rfl
  index vertices xs r p hcollection hcomparable hhash hr hmem hmem' := by
    have hsub := (eraseDups_sublist xs).subset
    have hvertices := Entry.canBeVertices_eraseDups hcomparable hhash
    have hbuilt := Entry.build_triple hcollection hhash
      (hvertices.build_ends fun a ha b hb ↦ hr a (hsub ha) b (hsub hb))
    refine hbuilt.imp (fun _ hw ↦ hw) (fun g _ hg ↦ ?_) fun _ _ h ↦ h
    obtain ⟨a, ha, hva⟩ := Value.exists_eraseDups hmem
    have hav : (a == v) = true := by
      rcases hva with rfl | hva
      · exact hv.same_self
      · exact hv.same_symm hva
    have hav' : (a == v') = true := (hcomparable a (hsub ha)).same_trans hav hsame
    obtain ⟨i, hi⟩ := List.mem_iff_getElem?.mp ha
    exact ⟨i, hg.index i v ⟨hhashable, a, hi, hav⟩, hg.index i v' ⟨hhashable', a, hi, hav'⟩⟩

/-- Parts that are the same make one vertex. -/
theorem oneVertex_ofParts (hid : Identifying id) (hname : Identifying name)
    (hslots : ∀ s, s ∈ occupied ↔ s ∈ occupied')
    (heq : sorted.map Amounts.exactReading = sorted'.map Amounts.exactReading)
    (hdefined : ∀ e ∈ sorted, (Amounts.reading e.2).isNaN = false)
    (hdefined' : ∀ e ∈ sorted', (Amounts.reading e.2).isNaN = false) :
    OneVertex (ofParts id name occupied sorted).toValue
      (ofParts id name occupied' sorted').toValue := by
  obtain ⟨hequal, hsame⟩ := equal_ofParts hid hname hslots heq hdefined
  have hequal' := equal_ofParts hid hname (fun s ↦ (hslots s).symm) heq.symm hdefined'
  exact .of_same (comparable_ofParts hid hname hdefined) (changeable?_ofParts hid hname)
    (changeable?_ofParts hid hname) hsame hequal hequal'.1

end Equipment

end Loadout
