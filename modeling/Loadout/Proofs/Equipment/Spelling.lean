import Loadout.Equipment
import Mathlib.Data.List.TakeWhile

/-!
# Spellings of slots

A slot is spelled by its name in any letter case, with blanks around it.  Every spelling is read as
that slot, `Spells.ofSpelling_eq`; and of the texts in ASCII nothing else is, `ofText_eq_ok_iff`,
although a slot is looked up twice, by its name in capitals and by its value in small letters.
-/

namespace Loadout

namespace Text

variable {c : Char} {cs before core after : List Char}

/-! ## Letter case in ASCII -/

theorem forall_ascii {P : Char → Prop} (h : ∀ n < 128, P (Char.ofNat n)) (hc : c.toNat < 128) :
    P c :=
  Char.ofNat_toNat c ▸ h c.toNat hc

theorem changeCase_upper (hc : c.toNat < 128) :
    changeCase upperExpansions upperRuns c = [c.toUpper] :=
  forall_ascii (P := fun c ↦ changeCase upperExpansions upperRuns c = [c.toUpper])
    (by decide +kernel) hc

theorem changeCase_lower (hc : c.toNat < 128) :
    changeCase lowerExpansions lowerRuns c = [c.toLower] :=
  forall_ascii (P := fun c ↦ changeCase lowerExpansions lowerRuns c = [c.toLower])
    (by decide +kernel) hc

theorem toUpper_toLower (hc : c.toNat < 128) : c.toLower.toUpper = c.toUpper :=
  forall_ascii (P := fun c ↦ c.toLower.toUpper = c.toUpper) (by decide +kernel) hc

/-- A character whose capital is a capital letter of ASCII is a letter of ASCII. -/
theorem ascii_of_isUpper (h : c.toUpper.isUpper = true) : c.toNat < 128 := by
  unfold Char.toUpper at h
  split at h
  next hc =>
    have hle : c.val.toNat ≤ 122 := UInt32.le_iff_toNat_le.mp hc.2
    exact Nat.lt_of_le_of_lt hle (by decide)
  next =>
    unfold Char.isUpper at h
    simp only [decide_eq_true_eq] at h
    have hle : c.val.toNat ≤ 90 := UInt32.le_iff_toNat_le.mp h.2
    exact Nat.lt_of_le_of_lt hle (by decide)

theorem isBlank_of_isUpper (h : c.toUpper.isUpper = true) : isBlank c = false :=
  forall_ascii (P := fun c ↦ c.toUpper.isUpper = true → isBlank c = false) (by decide +kernel)
    (ascii_of_isUpper h) h

theorem upper_eq_map (h : ∀ c ∈ cs, c.toNat < 128) : upper cs = cs.map Char.toUpper := by
  induction cs with
  | nil => rfl
  | cons c cs ih =>
    obtain ⟨hc, hcs⟩ := List.forall_mem_cons.mp h
    rw [upper, List.flatMap_cons, changeCase_upper hc, ← upper, ih hcs]
    rfl

theorem lowerFrom_eq_map (h : ∀ c ∈ cs, c.toNat < 128) :
    lowerFrom before cs = cs.map Char.toLower := by
  induction cs generalizing before with
  | nil => rfl
  | cons c cs ih =>
    obtain ⟨hc, hcs⟩ := List.forall_mem_cons.mp h
    have hsigma : c ≠ capitalSigma := by
      rintro rfl
      exact absurd hc (by decide)
    rw [lowerFrom, if_neg hsigma, changeCase_lower hc, ih hcs]
    rfl

/-! ## Blanks -/

theorem trim_append (hbefore : ∀ c ∈ before, isBlank c = true)
    (hafter : ∀ c ∈ after, isBlank c = true) (hcore : ∀ c ∈ core, isBlank c = false) :
    trim (before ++ core ++ after) = core := by
  have hleft : (core ++ after).dropWhile isBlank = core ++ after ∨ core = [] := by
    cases core with
    | nil => exact .inr rfl
    | cons c core => exact .inl (by simp [hcore c List.mem_cons_self])
  have hright : core.reverse.dropWhile isBlank = core.reverse := by
    cases hrev : core.reverse with
    | nil => rfl
    | cons c cs =>
      have hc : c ∈ core := List.mem_reverse.mp (hrev ▸ List.mem_cons_self)
      simp [hcore c hc]
  rw [trim, List.append_assoc, List.dropWhile_append_of_pos hbefore]
  rcases hleft with hleft | rfl
  · rw [hleft, List.reverse_append,
      List.dropWhile_append_of_pos fun c hc ↦ hafter c (List.mem_reverse.mp hc), hright,
      List.reverse_reverse]
  · rw [List.nil_append, ← List.append_nil after, List.dropWhile_append_of_pos hafter]
    rfl

/-- What is trimmed off a text are blanks at either end of it. -/
theorem exists_trim (cs : List Char) : ∃ before after, cs = before ++ trim cs ++ after ∧
    (∀ c ∈ before, isBlank c = true) ∧ ∀ c ∈ after, isBlank c = true := by
  refine ⟨cs.takeWhile isBlank, ((cs.dropWhile isBlank).reverse.takeWhile isBlank).reverse, ?_,
    fun c ↦ List.mem_takeWhile_imp, fun c hc ↦ List.mem_takeWhile_imp (List.mem_reverse.mp hc)⟩
  rw [trim, List.append_assoc, ← List.reverse_append, List.takeWhile_append_dropWhile,
    List.reverse_reverse, List.takeWhile_append_dropWhile]

end Text

namespace Slot

open Text (isBlank)

variable {s : Slot} {v : Value} {t : String} {core : List Char}

theorem isUpper_of_mem_name (s : Slot) : ∀ c ∈ s.name.toList, c.isUpper = true := by
  have hall : s.name.toList.all Char.isUpper = true := by cases s <;> decide
  exact List.all_eq_true.mp hall

theorem map_toUpper_value (s : Slot) : s.value.toList.map Char.toUpper = s.name.toList := by
  cases s <;> decide

/-- A value spells a slot if it is that slot, or if it is a text: the name of the slot in any letter
case, with blanks around it. -/
def Spells (s : Slot) (v : Value) : Prop :=
  v = .slot s ∨ ∃ before core after, v = .text (String.ofList (before ++ core ++ after)) ∧
    (∀ c ∈ before, isBlank c = true) ∧ (∀ c ∈ after, isBlank c = true) ∧
    core.map Char.toUpper = s.name.toList

/-- All characters of a slot's name in any letter case are letters of ASCII. -/
theorem isUpper_of_map_eq (h : core.map Char.toUpper = s.name.toList) :
    ∀ c ∈ core, c.toUpper.isUpper = true := fun _ hc ↦
  s.isUpper_of_mem_name _ (h ▸ List.mem_map_of_mem hc)

theorem ofSpelling_text (t : String) : ofSpelling (.text t) = ofText t := rfl

theorem Spells.ofSpelling_eq (h : s.Spells v) : ofSpelling v = .ok s := by
  rcases h with rfl | ⟨before, core, after, rfl, hbefore, hafter, hcore⟩
  · rfl
  · have hletters := isUpper_of_map_eq hcore
    have htrim : Text.trim (before ++ core ++ after) = core :=
      Text.trim_append hbefore hafter fun _ hc ↦ Text.isBlank_of_isUpper (hletters _ hc)
    have hupper : Text.upper core = s.name.toList :=
      (Text.upper_eq_map fun c hc ↦ Text.ascii_of_isUpper (hletters c hc)).trans hcore
    simp only [ofSpelling_text, ofText, String.toList_ofList, htrim, hupper, String.ofList_toList,
      ofName?_name]

theorem name_eq_of_ofName? {t : String} (h : ofName? t = some s) : s.name = t := by
  simpa using List.find?_some h

theorem value_eq_of_ofValue? {t : String} (h : ofValue? t = some s) : s.value = t := by
  simpa using List.find?_some h

/-- Among the texts in ASCII, those that are read as a slot are the ones that spell it. -/
theorem ofText_eq_ok_iff (hascii : ∀ c ∈ t.toList, c.toNat < 128) :
    ofText t = .ok s ↔ s.Spells (.text t) := by
  refine ⟨fun h ↦ ?_, fun h ↦ ofSpelling_text t ▸ h.ofSpelling_eq⟩
  obtain ⟨before, after, ht, hbefore, hafter⟩ := Text.exists_trim t.toList
  generalize htrim : Text.trim t.toList = core at ht
  have hcore : ∀ c ∈ core, c.toNat < 128 := fun c hc ↦
    hascii c (ht ▸ List.mem_append_left _ (List.mem_append_right _ hc))
  refine .inr ⟨before, core, after, by rw [← ht, String.ofList_toList], hbefore, hafter, ?_⟩
  simp only [ofText, htrim, Text.upper_eq_map hcore] at h
  split at h
  next slot hname =>
    cases h
    rw [name_eq_of_ofName? hname, String.toList_ofList]
  next =>
    split at h
    next slot hvalue =>
      cases h
      have hlower : s.value.toList = core.map Char.toLower := by
        rw [value_eq_of_ofValue? hvalue, String.toList_ofList]
        exact Text.lowerFrom_eq_map hcore
      rw [← s.map_toUpper_value, hlower, List.map_map]
      exact List.map_congr_left fun c hc ↦ (Text.toUpper_toLower (hcore c hc)).symm
    next => cases h

end Slot

end Loadout
