import Loadout.Proofs.Outcome
import Loadout.Proofs.Value.Sameness
import Loadout.Value.Intersection

/-!
# When two collections intersect

Whichever of two collections is a set, and whether one of them is, the question whether they
intersect is answered by whether an element of one is the same as an element of the other,
`Gathers.intersects_ends`.  For this sameness has to be symmetric and transitive among the elements:
a set that is made of a collection keeps one of several elements that are the same.
-/

namespace Loadout.Value

variable {xs ys zs : List Value} {left right v : Value} {fails : Failure → Prop}

/-- The elements of a value are the listed ones.  Each can be an element of a set, and sameness is an
equivalence among them. -/
structure Gathers (v : Value) (xs : List Value) : Prop where
  elements : v.elements? = .ok xs
  comparable : ∀ x ∈ xs, x.Comparable
  hashable : ∀ x ∈ xs, x.beElement = .ok ()

/-- A value is a collection of the listed values, each of which can be an element of a set. -/
structure Collects (v : Value) (xs : List Value) : Prop where
  comparable : v.Comparable
  elements : v.elements? = .ok xs
  hashable : ∀ x ∈ xs, x.beElement = .ok ()

theorem Collects.gathers (h : Collects v xs) : Gathers v xs :=
  ⟨h.elements, h.comparable.of_elements? h.elements, h.hashable⟩

theorem Collects.comparable_elements (h : Collects v xs) : ∀ x ∈ xs, x.Comparable :=
  h.gathers.comparable

/-- Whether a value of one list is the same as a value of another. -/
def overlap (xs ys : List Value) : Bool :=
  xs.any ys.contains

theorem overlap_iff : overlap xs ys = true ↔ ∃ x ∈ xs, ∃ y ∈ ys, (x == y) = true := by
  simp only [overlap, List.any_eq_true, List.contains_iff_exists_mem_beq]

theorem overlap_comm (hxs : ∀ x ∈ xs, x.Comparable) (hys : ∀ y ∈ ys, y.Comparable) :
    overlap xs ys = overlap ys xs := by
  rw [Bool.eq_iff_iff, overlap_iff, overlap_iff]
  constructor
  · rintro ⟨x, hx, y, hy, hxy⟩
    exact ⟨y, hy, x, hx, (hxs x hx).same_symm hxy⟩
  · rintro ⟨y, hy, x, hx, hyx⟩
    exact ⟨x, hx, y, hy, (hys y hy).same_symm hyx⟩

/-- An element stays the same as one that is left when repeated ones are left out. -/
theorem exists_eraseDups {x : Value} (hx : x ∈ xs) :
    ∃ y ∈ xs.eraseDups, x = y ∨ (x == y) = true := by
  induction xs using eraseDups_induction with
  | nil => exact absurd hx List.not_mem_nil
  | cons a xs ih =>
    rw [List.eraseDups_cons]
    rcases List.mem_cons.mp hx with rfl | hx
    · exact ⟨x, List.mem_cons_self, .inl rfl⟩
    · by_cases hxa : (x == a) = true
      · exact ⟨a, List.mem_cons_self, .inr hxa⟩
      · obtain ⟨y, hy, hxy⟩ := ih (List.mem_filter.mpr ⟨hx, by simpa using hxa⟩)
        exact ⟨y, List.mem_cons_of_mem _ hy, hxy⟩

/-- A list overlaps another one if it overlaps the different values of that one. -/
theorem overlap_eraseDups (hys : ∀ y ∈ ys, y.Comparable) :
    overlap ys xs.eraseDups = overlap ys xs := by
  rw [Bool.eq_iff_iff, overlap_iff, overlap_iff]
  constructor
  · rintro ⟨y, hy, x, hx, hyx⟩
    exact ⟨y, hy, x, (eraseDups_sublist xs).subset hx, hyx⟩
  · rintro ⟨y, hy, x, hx, hyx⟩
    obtain ⟨z, hz, rfl | hxz⟩ := exists_eraseDups hx
    · exact ⟨y, hy, x, hz, hyx⟩
    · exact ⟨y, hy, z, hz, (hys y hy).same_trans hyx hxz⟩

/-! ## The question -/

/-- Values that can be elements of a set are read up to the first one that is in it. -/
theorem scan_isIn (hys : ∀ y ∈ ys, y.beElement = .ok ()) :
    (scan (isIn xs) ys).1 = .ok (overlap ys xs) := by
  induction ys with
  | nil => rfl
  | cons y ys ih =>
    obtain ⟨hy, hys⟩ := List.forall_mem_cons.mp hys
    have hfound : isIn xs y = .ok (xs.contains y) := by
      rw [isIn, hy]
      rfl
    rw [scan, hfound, overlap, List.any_cons]
    cases xs.contains y with
    | true => rfl
    | false => exact ih hys

theorem Gathers.anyElement_ends (h : Gathers v ys) :
    Call.Ends (v.anyElement (isIn xs)) (· = overlap ys xs) fails := by
  have hread : Call.Ends
      (Call.ofExcept (v.elements? >>= fun xs' ↦ (scan (isIn xs) xs').1) : Call Caller Bool)
      (· = overlap ys xs) fails := by
    have hanswer : (v.elements? >>= fun xs' ↦ (scan (isIn xs) xs').1) = .ok (overlap ys xs) := by
      rw [h.elements]
      exact scan_isIn h.hashable
    rw [hanswer]
    exact .pure rfl
  cases v with
  | iterator label => exact absurd h.elements (by simp [elements?])
  | _ => exact hread

theorem distinct_eq (hxs : ∀ x ∈ xs, x.beElement = .ok ()) : distinct xs = .ok xs.eraseDups := by
  have hall : xs.forM beElement = .ok () := by
    induction xs with
    | nil => rfl
    | cons x xs ih =>
      obtain ⟨hx, hxs⟩ := List.forall_mem_cons.mp hxs
      change (x.beElement >>= fun _ ↦ xs.forM beElement) = _
      rw [hx]
      exact ih hxs
  rw [distinct, hall]
  rfl

theorem Gathers.toSet_ends (h : Gathers v xs) :
    Call.Ends v.toSet (· = xs.eraseDups) fails := by
  have hread : Call.Ends (Call.ofExcept v.elements? : Call Caller (List Value)) (· = xs) fails := by
    rw [h.elements]
    exact .pure rfl
  have helements : Call.Ends v.elements (· = xs) fails := by
    cases v with
    | iterator label => exact absurd h.elements (by simp [elements?])
    | _ => exact hread
  refine helements.bind fun zs hzs ↦ ?_
  subst hzs
  rw [distinct_eq h.hashable]
  exact .pure rfl

/-- A set is a collection of its elements. -/
theorem Gathers.eq_of_setElements? (h : Gathers v xs) (hset : v.setElements? = some ys) :
    ys = xs :=
  Except.ok.inj ((elements?_of_setElements? hset).symm.trans h.elements)

/-- Two collections intersect if and only if they overlap. -/
theorem Gathers.intersects_ends (hleft : Gathers left xs) (hright : Gathers right ys) :
    Call.Ends (left.intersects right) (· = overlap xs ys) fails := by
  have hcomm : overlap xs ys = overlap ys xs := overlap_comm hleft.comparable hright.comparable
  unfold intersects
  cases hset : left.setElements? with
  | some zs =>
    obtain rfl := hleft.eq_of_setElements? hset
    rw [hcomm]
    exact hright.anyElement_ends
  | none =>
    cases hset' : right.setElements? with
    | some zs =>
      obtain rfl := hright.eq_of_setElements? hset'
      exact hleft.anyElement_ends
    | none =>
      refine hleft.toSet_ends.bind fun zs hzs ↦ ?_
      subst hzs
      rw [hcomm, ← overlap_eraseDups hright.comparable]
      exact hright.anyElement_ends

theorem intersects_ends (hleft : Collects left xs) (hright : Collects right ys) :
    Call.Ends (left.intersects right) (· = overlap xs ys) fails :=
  hleft.gathers.intersects_ends hright.gathers

end Loadout.Value
