import Loadout.Proofs.Distinct
import Loadout.Value.Caller
import Mathlib.Data.List.Forall2

/-!
# Sameness is an equivalence

What a value is the same as can be read off its form: one lemma for each form says so.  From these
it follows, by induction on the parts of a value, that sameness is an equivalence of the values that
are `Comparable`.  Only for symmetry does it matter that the elements of sets and the keys of
mappings are different: sets of one size are compared by asking for the elements of one of them in
the other.
-/

namespace Loadout

/-! ## Lists that are related -/

section Related

variable {α β : Type} {r : α → β → Prop} {xs : List α} {ys : List β}

/-- Lists that are related place by place are so in the other direction. -/
theorem forall₂_swap {q : β → α → Prop} (h : List.Forall₂ r xs ys)
    (hq : ∀ x ∈ xs, ∀ y, r x y → q y x) : List.Forall₂ q ys xs := by
  induction h with
  | nil => exact .nil
  | cons hxy _ ih =>
    refine .cons (hq _ List.mem_cons_self _ hxy) (ih fun x hx ↦ hq x (List.mem_cons_of_mem _ hx))

/-- Lists that are related place by place can be related to a third one. -/
theorem forall₂_comp {γ : Type} {zs : List γ} {q : β → γ → Prop} {t : α → γ → Prop}
    (h : List.Forall₂ r xs ys) (h' : List.Forall₂ q ys zs)
    (ht : ∀ x ∈ xs, ∀ y z, r x y → q y z → t x z) : List.Forall₂ t xs zs := by
  induction h generalizing zs with
  | nil =>
    cases h'
    exact .nil
  | cons hxy _ ih =>
    cases h' with
    | cons hyz hrest =>
      refine .cons (ht _ List.mem_cons_self _ _ hxy hyz) (ih hrest fun x hx ↦ ?_)
      exact ht x (List.mem_cons_of_mem _ hx)

/-- If each of some values is related to one of no more others, and no two to the same one, then
all of the others are reached. -/
theorem exists_related_of_length_le (hlength : ys.length ≤ xs.length)
    (hrelated : ∀ x ∈ xs, ∃ y ∈ ys, r x y)
    (hapart : xs.Pairwise fun a b ↦ ∀ y, r a y → ¬ r b y) : ∀ y ∈ ys, ∃ x ∈ xs, r x y := by
  induction xs generalizing ys with
  | nil =>
    rw [List.length_eq_zero_iff.mp (Nat.le_zero.mp hlength)]
    exact fun y hy ↦ absurd hy List.not_mem_nil
  | cons a xs ih =>
    obtain ⟨ha, hxs⟩ := List.pairwise_cons.mp hapart
    obtain ⟨b, hb, hab⟩ := hrelated a List.mem_cons_self
    obtain ⟨before, after, rfl⟩ := List.append_of_mem hb
    have hrest : ∀ y ∈ before ++ after, ∃ x ∈ xs, r x y := by
      refine ih ?_ (fun x hx ↦ ?_) hxs
      · simp only [List.length_append, List.length_cons] at hlength ⊢
        omega
      · obtain ⟨y, hy, hxy⟩ := hrelated x (List.mem_cons_of_mem _ hx)
        have hne : y ≠ b := by
          rintro rfl
          exact ha x hx y hab hxy
        refine ⟨y, ?_, hxy⟩
        simp only [List.mem_append, List.mem_cons] at hy ⊢
        tauto
    intro y hy
    by_cases hyb : y = b
    · exact ⟨a, List.mem_cons_self, hyb ▸ hab⟩
    · obtain ⟨x, hx, hxy⟩ := hrest y (by
        simp only [List.mem_append, List.mem_cons] at hy ⊢
        tauto)
      exact ⟨x, List.mem_cons_of_mem _ hx, hxy⟩

end Related

namespace Value

open Number (Exact)

variable {v w x y : Value} {xs ys : List Value} {es fs : List (Value × Value)}

theorem elements?_of_setElements? (h : v.setElements? = some xs) : v.elements? = .ok xs := by
  cases v with
  | set zs | frozen zs => exact congrArg Except.ok (Option.some.inj h)
  | _ => cases h

/-! ## Sameness of lists of values -/

theorem sameAll_iff : sameAll xs ys = true ↔ List.Forall₂ (fun x y ↦ same x y = true) xs ys := by
  induction xs generalizing ys with
  | nil => cases ys <;> simp [sameAll]
  | cons x xs ih => cases ys <;> simp [sameAll, ih]

theorem sameEntries_iff : sameEntries es fs = true ↔
    List.Forall₂ (fun e f ↦ same e.1 f.1 = true ∧ same e.2 f.2 = true) es fs := by
  induction es generalizing fs with
  | nil => cases fs <;> simp [sameEntries]
  | cons e es ih =>
    cases fs with
    | nil => simp [sameEntries]
    | cons f fs =>
      rw [sameEntries, List.forall₂_cons, Bool.and_eq_true, Bool.and_eq_true, ih]

theorem allIn_iff : allIn xs ys = true ↔ ∀ x ∈ xs, ∃ y ∈ ys, same x y = true := by
  induction xs with
  | nil => simp [allIn]
  | cons x xs ih => simp [allIn, ih]

theorem entriesIn_iff : entriesIn es fs = true ↔
    ∀ e ∈ es, ∃ f ∈ fs, same e.1 f.1 = true ∧ same e.2 f.2 = true := by
  induction es with
  | nil => simp [entriesIn]
  | cons e es ih =>
    obtain ⟨k, v⟩ := e
    simp [entriesIn, ih]

/-! ## What a value is the same as -/

/-- A defined number is the same as every number of its exact value. -/
theorem same_number_iff {n : Exact} (hv : v.number? = some n) (hn : n ≠ .undefined) :
    same v w = true ↔ w.number? = some n := by
  have hagree : same v w = w.number?.any n.agree := by
    cases v with
    | truth | integer | word | real | machine =>
      obtain rfl := Option.some.inj hv
      rw [same]
      · cases w.number? <;> rfl
      all_goals simp
    | undefined i => exact absurd (Option.some.inj hv).symm hn
    | _ => cases hv
  rw [hagree]
  cases w.number? with
  | none => simp
  | some m => simp [Exact.agree, hn, eq_comm]

theorem same_undefined_iff {i : Nat} : same (undefined i) y = true ↔ y = undefined i := by
  cases y with
  | undefined j =>
    rw [same, beq_iff_eq, undefined.injEq]
    exact eq_comm
  | _ => simp [same, number?, Exact.agree]

theorem same_nothing_iff : same nothing y = true ↔ y = nothing := by
  cases y <;> simp [same, number?]

theorem same_text_iff {s : String} : same (text s) y = true ↔ y = text s := by
  cases y with
  | text t =>
    rw [same, beq_iff_eq, text.injEq]
    exact eq_comm
  | _ => simp [same, number?]

theorem same_bytes_iff {bs : List UInt8} : same (bytes bs) y = true ↔ y = bytes bs := by
  cases y with
  | bytes cs =>
    rw [same, beq_iff_eq, bytes.injEq]
    exact eq_comm
  | _ => simp [same, number?]

theorem same_iterator_iff {i : Nat} : same (iterator i) y = true ↔ y = iterator i := by
  cases y with
  | iterator j =>
    rw [same, beq_iff_eq, iterator.injEq]
    exact eq_comm
  | _ => simp [same, number?]

theorem same_slot_iff {s : Slot} : same (slot s) y = true ↔ y = slot s := by
  cases y with
  | slot t =>
    rw [same, beq_iff_eq, slot.injEq]
    exact eq_comm
  | _ => simp [same, number?]

theorem same_thing_iff {k : String} {as : List (String × Value)} :
    same (thing k as) y = true ↔ ∃ bs, y = thing k bs := by
  cases y with
  | thing l bs =>
    rw [same, beq_iff_eq]
    constructor
    · rintro rfl
      exact ⟨bs, rfl⟩
    · rintro ⟨_, h⟩
      exact (thing.inj h).1.symm
  | _ => simp [same, number?]

theorem same_list_iff : same (list xs) y = true ↔
    ∃ ys, y = list ys ∧ List.Forall₂ (fun x y ↦ same x y = true) xs ys := by
  cases y <;> simp [same, number?, sameAll_iff]

theorem same_tuple_iff : same (tuple xs) y = true ↔
    ∃ ys, y = tuple ys ∧ List.Forall₂ (fun x y ↦ same x y = true) xs ys := by
  cases y <;> simp [same, number?, sameAll_iff]

/-- A set of either kind is the same as every set of as many elements that has its elements. -/
theorem same_set_iff (hv : v.setElements? = some xs) : same v y = true ↔
    ∃ ys, y.setElements? = some ys ∧ xs.length = ys.length ∧
      ∀ x ∈ xs, ∃ y ∈ ys, same x y = true := by
  cases v with
  | set zs | frozen zs =>
    obtain rfl := Option.some.inj hv
    cases y <;> simp [same, number?, setElements?, allIn_iff]
  | _ => cases hv

theorem same_mapping_iff : same (mapping es) y = true ↔
    ∃ fs, y = mapping fs ∧ es.length = fs.length ∧
      ∀ e ∈ es, ∃ f ∈ fs, same e.1 f.1 = true ∧ same e.2 f.2 = true := by
  cases y <;> simp [same, number?, entriesIn_iff]

theorem same_equipment_iff {i n : Value} {slots : List Value} {bonuses : List (Value × Value)} :
    same (equipment i n slots bonuses) y = true ↔
      ∃ i' n' slots' bonuses', y = equipment i' n' slots' bonuses' ∧
        same i i' = true ∧ same n n' = true ∧
        (slots.length = slots'.length ∧ ∀ s ∈ slots, ∃ t ∈ slots', same s t = true) ∧
        List.Forall₂ (fun e f ↦ same e.1 f.1 = true ∧ same e.2 f.2 = true) bonuses bonuses' := by
  cases y <;> simp [same, number?, allIn_iff, sameEntries_iff, and_assoc]

/-! ## Comparable values -/

/-- A value of which sameness is an equivalence: what is undefined has a label, the elements of a
set and the keys of a mapping are different, and there are no arrays. -/
inductive Comparable : Value → Prop
  | nothing : Comparable nothing
  | number {v : Value} {n : Exact} (hv : v.number? = some n) (hn : n ≠ .undefined) : Comparable v
  | undefined (i : Nat) : Comparable (undefined i)
  | text (s : String) : Comparable (text s)
  | bytes (bs : List UInt8) : Comparable (bytes bs)
  | list {xs : List Value} (hxs : ∀ x ∈ xs, Comparable x) : Comparable (list xs)
  | tuple {xs : List Value} (hxs : ∀ x ∈ xs, Comparable x) : Comparable (tuple xs)
  | elements {v : Value} {xs : List Value} (hv : v.setElements? = some xs)
    (hxs : ∀ x ∈ xs, Comparable x) (hdistinct : Distinct xs) : Comparable v
  | mapping {es : List (Value × Value)} (hkeys : ∀ e ∈ es, Comparable e.1)
    (hvalues : ∀ e ∈ es, Comparable e.2) (hdistinct : Distinct (es.map (·.1))) :
    Comparable (mapping es)
  | iterator (i : Nat) : Comparable (iterator i)
  | slot (s : Slot) : Comparable (slot s)
  | equipment {i n : Value} {slots : List Value} {bonuses : List (Value × Value)}
    (hi : Comparable i) (hn : Comparable n) (hslots : ∀ s ∈ slots, Comparable s)
    (hdistinct : Distinct slots) (hnames : ∀ e ∈ bonuses, Comparable e.1)
    (hamounts : ∀ e ∈ bonuses, Comparable e.2) : Comparable (equipment i n slots bonuses)
  | thing (k : String) (as : List (String × Value)) : Comparable (thing k as)

namespace Comparable

theorem integer (n : Int) : Comparable (.integer n) :=
  .number rfl (by simp [Exact.ofInt])

theorem truth (b : Bool) : Comparable (.truth b) :=
  .number rfl (by simp [Exact.ofInt])

theorem same_self (hx : Comparable x) : same x x = true := by
  induction hx with
  | nothing => exact same_nothing_iff.mpr rfl
  | number hv hn => exact (same_number_iff hv hn).mpr hv
  | undefined i => exact same_undefined_iff.mpr rfl
  | text s => exact same_text_iff.mpr rfl
  | bytes bs => exact same_bytes_iff.mpr rfl
  | list _ ih => exact same_list_iff.mpr ⟨_, rfl, List.forall₂_same.mpr ih⟩
  | tuple _ ih => exact same_tuple_iff.mpr ⟨_, rfl, List.forall₂_same.mpr ih⟩
  | elements hv _ _ ih => exact (same_set_iff hv).mpr ⟨_, hv, rfl, fun x hx ↦ ⟨x, hx, ih x hx⟩⟩
  | mapping _ _ _ ihkeys ihvalues =>
    exact same_mapping_iff.mpr ⟨_, rfl, rfl, fun e he ↦ ⟨e, he, ihkeys e he, ihvalues e he⟩⟩
  | iterator i => exact same_iterator_iff.mpr rfl
  | slot s => exact same_slot_iff.mpr rfl
  | equipment _ _ _ _ _ _ ihi ihn ihslots ihnames ihamounts =>
    refine same_equipment_iff.mpr ⟨_, _, _, _, rfl, ihi, ihn, ⟨rfl, fun s hs ↦ ?_⟩, ?_⟩
    · exact ⟨s, hs, ihslots s hs⟩
    · exact List.forall₂_same.mpr fun e he ↦ ⟨ihnames e he, ihamounts e he⟩
  | thing k as => exact same_thing_iff.mpr ⟨as, rfl⟩

theorem same_trans (hx : Comparable x) (hxy : same x y = true) (hyw : same y w = true) :
    same x w = true := by
  induction hx generalizing y w with
  | nothing =>
    obtain rfl := same_nothing_iff.mp hxy
    exact hyw
  | number hv hn =>
    have hy := (same_number_iff hv hn).mp hxy
    exact (same_number_iff hv hn).mpr ((same_number_iff hy hn).mp hyw)
  | undefined i =>
    obtain rfl := same_undefined_iff.mp hxy
    exact hyw
  | text s =>
    obtain rfl := same_text_iff.mp hxy
    exact hyw
  | bytes bs =>
    obtain rfl := same_bytes_iff.mp hxy
    exact hyw
  | list _ ih =>
    obtain ⟨ys, rfl, hxs⟩ := same_list_iff.mp hxy
    obtain ⟨ws, rfl, hys⟩ := same_list_iff.mp hyw
    exact same_list_iff.mpr ⟨ws, rfl, forall₂_comp hxs hys fun x hx _ _ ↦ ih x hx⟩
  | tuple _ ih =>
    obtain ⟨ys, rfl, hxs⟩ := same_tuple_iff.mp hxy
    obtain ⟨ws, rfl, hys⟩ := same_tuple_iff.mp hyw
    exact same_tuple_iff.mpr ⟨ws, rfl, forall₂_comp hxs hys fun x hx _ _ ↦ ih x hx⟩
  | elements hv _ _ ih =>
    obtain ⟨ys, hy, hlength, hxs⟩ := (same_set_iff hv).mp hxy
    obtain ⟨ws, hw, hlength', hys⟩ := (same_set_iff hy).mp hyw
    refine (same_set_iff hv).mpr ⟨ws, hw, hlength.trans hlength', fun x hx ↦ ?_⟩
    obtain ⟨y, hy, hxy⟩ := hxs x hx
    obtain ⟨w, hw, hyw⟩ := hys y hy
    exact ⟨w, hw, ih x hx hxy hyw⟩
  | mapping _ _ _ ihkeys ihvalues =>
    obtain ⟨fs, rfl, hlength, hes⟩ := same_mapping_iff.mp hxy
    obtain ⟨gs, rfl, hlength', hfs⟩ := same_mapping_iff.mp hyw
    refine same_mapping_iff.mpr ⟨gs, rfl, hlength.trans hlength', fun e he ↦ ?_⟩
    obtain ⟨f, hf, hkey, hvalue⟩ := hes e he
    obtain ⟨g, hg, hkey', hvalue'⟩ := hfs f hf
    exact ⟨g, hg, ihkeys e he hkey hkey', ihvalues e he hvalue hvalue'⟩
  | iterator i =>
    obtain rfl := same_iterator_iff.mp hxy
    exact hyw
  | slot s =>
    obtain rfl := same_slot_iff.mp hxy
    exact hyw
  | equipment _ _ _ _ _ _ ihi ihn ihslots ihnames ihamounts =>
    obtain ⟨i', n', slots', bonuses', rfl, hi, hn, ⟨hlength, hslots⟩, hbonuses⟩ :=
      same_equipment_iff.mp hxy
    obtain ⟨i'', n'', slots'', bonuses'', rfl, hi', hn', ⟨hlength', hslots'⟩, hbonuses'⟩ :=
      same_equipment_iff.mp hyw
    refine same_equipment_iff.mpr ⟨_, _, _, _, rfl, ihi hi hi', ihn hn hn',
      ⟨hlength.trans hlength', fun s hs ↦ ?_⟩, ?_⟩
    · obtain ⟨t, ht, hst⟩ := hslots s hs
      obtain ⟨u, hu, htu⟩ := hslots' t ht
      exact ⟨u, hu, ihslots s hs hst htu⟩
    · refine forall₂_comp hbonuses hbonuses' fun e he f g hef hfg ↦ ?_
      exact ⟨ihnames e he hef.1 hfg.1, ihamounts e he hef.2 hfg.2⟩
  | thing k as =>
    obtain ⟨bs, rfl⟩ := same_thing_iff.mp hxy
    obtain ⟨cs, rfl⟩ := same_thing_iff.mp hyw
    exact same_thing_iff.mpr ⟨cs, rfl⟩

/-- Different values cannot be the same as one value. -/
theorem not_same_of_distinct {x' : Value} (hx' : Comparable x')
    (hsymm : ∀ y, same x y = true → same y x = true) (hne : (x' == x) = false)
    (hxy : same x y = true) : ¬ same x' y = true := by
  intro hxy'
  have hsame : (x' == x) = true := hx'.same_trans hxy' (hsymm y hxy)
  rw [hsame] at hne
  exact Bool.noConfusion hne

/-- Sets of one size have each other's elements if one has those of the other. -/
theorem elements_symm (hxs : ∀ x ∈ xs, Comparable x) (hdistinct : Distinct xs)
    (hsymm : ∀ x ∈ xs, ∀ y, same x y = true → same y x = true) (hlength : xs.length = ys.length)
    (hall : ∀ x ∈ xs, ∃ y ∈ ys, same x y = true) : ∀ y ∈ ys, ∃ x ∈ xs, same y x = true := by
  intro y hy
  have happart : xs.Pairwise fun a b ↦ ∀ y, same a y = true → ¬ same b y = true :=
    List.Pairwise.imp_of_mem (fun {a b} ha hb hab y hay ↦
      not_same_of_distinct (hxs b hb) (hsymm a ha) hab hay) hdistinct
  obtain ⟨x, hx, hxy⟩ := exists_related_of_length_le (Nat.le_of_eq hlength.symm) hall happart y hy
  exact ⟨x, hx, hsymm x hx y hxy⟩

theorem same_symm (hx : Comparable x) (hxy : same x y = true) : same y x = true := by
  induction hx generalizing y with
  | nothing =>
    obtain rfl := same_nothing_iff.mp hxy
    exact hxy
  | number hv hn => exact (same_number_iff ((same_number_iff hv hn).mp hxy) hn).mpr hv
  | undefined i =>
    obtain rfl := same_undefined_iff.mp hxy
    exact hxy
  | text s =>
    obtain rfl := same_text_iff.mp hxy
    exact hxy
  | bytes bs =>
    obtain rfl := same_bytes_iff.mp hxy
    exact hxy
  | list _ ih =>
    obtain ⟨ys, rfl, hall⟩ := same_list_iff.mp hxy
    exact same_list_iff.mpr ⟨_, rfl, forall₂_swap hall fun x hx _ ↦ ih x hx⟩
  | tuple _ ih =>
    obtain ⟨ys, rfl, hall⟩ := same_tuple_iff.mp hxy
    exact same_tuple_iff.mpr ⟨_, rfl, forall₂_swap hall fun x hx _ ↦ ih x hx⟩
  | elements hv hxs hdistinct ih =>
    obtain ⟨ys, hy, hlength, hall⟩ := (same_set_iff hv).mp hxy
    exact (same_set_iff hy).mpr ⟨_, hv, hlength.symm,
      elements_symm hxs hdistinct (fun x hx _ ↦ ih x hx) hlength hall⟩
  | @mapping es hkeys _ hdistinct ihkeys ihvalues =>
    obtain ⟨fs, rfl, hlength, hall⟩ := same_mapping_iff.mp hxy
    refine same_mapping_iff.mpr ⟨_, rfl, hlength.symm, fun f hf ↦ ?_⟩
    have happart : es.Pairwise fun d e ↦ ∀ f : Value × Value,
        same d.1 f.1 = true ∧ same d.2 f.2 = true →
          ¬ (same e.1 f.1 = true ∧ same e.2 f.2 = true) :=
      List.Pairwise.imp_of_mem (fun {d e} hd he hde f hdf hef ↦
        not_same_of_distinct (hkeys e he) (fun _ ↦ ihkeys d hd) hde hdf.1 hef.1)
        (List.pairwise_map.mp hdistinct)
    obtain ⟨e, he, hkey, hvalue⟩ :=
      exists_related_of_length_le (Nat.le_of_eq hlength.symm) hall happart f hf
    exact ⟨e, he, ihkeys e he hkey, ihvalues e he hvalue⟩
  | iterator i =>
    obtain rfl := same_iterator_iff.mp hxy
    exact hxy
  | slot s =>
    obtain rfl := same_slot_iff.mp hxy
    exact hxy
  | equipment _ _ hslots hdistinct _ _ ihi ihn ihslots ihnames ihamounts =>
    obtain ⟨i', n', slots', bonuses', rfl, hi, hn, ⟨hlength, hall⟩, hbonuses⟩ :=
      same_equipment_iff.mp hxy
    refine same_equipment_iff.mpr ⟨_, _, _, _, rfl, ihi hi, ihn hn, ⟨hlength.symm, ?_⟩, ?_⟩
    · exact elements_symm hslots hdistinct (fun s hs _ ↦ ihslots s hs) hlength hall
    · exact forall₂_swap hbonuses fun e he _ hef ↦ ⟨ihnames e he hef.1, ihamounts e he hef.2⟩
  | thing k as =>
    obtain ⟨bs, rfl⟩ := same_thing_iff.mp hxy
    exact same_thing_iff.mpr ⟨as, rfl⟩

/-- The elements of a comparable value are comparable. -/
theorem of_elements? (hv : Comparable v) (h : v.elements? = .ok xs) : ∀ x ∈ xs, Comparable x := by
  cases hv with
  | number hv _ =>
    cases v with
    | truth | integer | word | real | undefined | machine => cases h
    | _ => cases hv
  | text s =>
    obtain rfl := Except.ok.inj h
    intro x hx
    obtain ⟨c, -, rfl⟩ := List.mem_map.mp hx
    exact .text _
  | bytes bs =>
    obtain rfl := Except.ok.inj h
    intro x hx
    obtain ⟨b, -, rfl⟩ := List.mem_map.mp hx
    exact .integer _
  | list hxs | tuple hxs =>
    obtain rfl := Except.ok.inj h
    exact hxs
  | elements hv hxs =>
    have heq : v.elements? = .ok _ := Value.elements?_of_setElements? hv
    obtain rfl := Except.ok.inj (h.symm.trans heq)
    exact hxs
  | mapping hkeys =>
    obtain rfl := Except.ok.inj h
    intro x hx
    obtain ⟨e, he, rfl⟩ := List.mem_map.mp hx
    exact hkeys e he
  | _ => cases h

end Comparable

end Value

end Loadout
