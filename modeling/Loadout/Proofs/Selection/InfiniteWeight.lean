import Loadout.Number.Exact
import Loadout.Proofs.Selection.DisjointRow
import Loadout.Proofs.Value.Intersection
import Mathlib.Algebra.Order.Field.Rat

/-!
# A candidate of infinite weight

The weight of a row is a sum over all candidates, each times one or zero, and zero times an infinite
weight is undefined.  So if one candidate weighs infinitely much, every row that it is not in has an
undefined weight, and so has its own, to which its weight is added besides, `undefined_rowWeight`;
the other rows weigh infinitely much, `rowWeight_eq_infinite`.  The first row of undefined weight
counts as the heaviest: it belongs to the first candidate that has an element in common with the
infinite one, or is it, `heaviest_rowWeights`.  So the infinite candidate is selected if and only if
no earlier one has an element in common with it, `find_infinite`.

This takes no more of the arithmetic than what it does with special values, `SpecialValues`.  Exact
values are an example.
-/

namespace Loadout

/-! ## Special values -/

/-- A number that is not even at most itself. -/
def Undefined {φ : Type} [LE φ] (x : φ) : Prop :=
  ¬ x ≤ x

/-- What sums, products and comparisons make of special values, and that finite ones stay so. -/
structure SpecialValues {φ : Type} [Zero φ] [One φ] [Add φ] [Mul φ] [LE φ] (finite : φ → Prop)
    (infinite : φ) : Prop where
  zero_mul_infinite : Undefined (0 * infinite)
  one_mul_infinite : 1 * infinite = infinite
  undefined_add : ∀ x y : φ, Undefined x → Undefined (x + y)
  add_undefined : ∀ x y : φ, Undefined y → Undefined (x + y)
  undefined_not_le : ∀ x y : φ, Undefined x → ¬ x ≤ y
  infinite_le : infinite ≤ infinite
  infinite_add_infinite : infinite + infinite = infinite
  infinite_add : ∀ x, finite x → infinite + x = infinite
  add_infinite : ∀ x, finite x → x + infinite = infinite
  finite_zero : finite 0
  finite_add : ∀ x y, finite x → finite y → finite (x + y)
  finite_zero_mul : ∀ x, finite x → finite (0 * x)
  finite_one_mul : ∀ x, finite x → finite (1 * x)

namespace Number.Exact

instance : Zero Exact := ⟨.finite 0⟩

instance : One Exact := ⟨.finite 1⟩

/-- The exact sum of two numbers. -/
instance : Add Exact where
  add
    | .finite a, .finite b => .finite (a + b)
    | .finite _, .infinite negative => .infinite negative
    | .infinite negative, .finite _ => .infinite negative
    | .infinite negative, .infinite negative' =>
      if negative = negative' then .infinite negative else .undefined
    | _, _ => .undefined

/-- The exact product of two numbers. -/
instance : Mul Exact where
  mul
    | .finite a, .finite b => .finite (a * b)
    | .finite a, .infinite negative => if a = 0 then .undefined else .infinite (negative != (a < 0))
    | .infinite negative, .finite a => if a = 0 then .undefined else .infinite (negative != (a < 0))
    | .infinite negative, .infinite negative' => .infinite (negative != negative')
    | _, _ => .undefined

instance : LE Exact := ⟨fun a b ↦ a.le b = true⟩

instance : DecidableLE Exact := fun a b ↦ decEq (a.le b) true

theorem le_iff {a b : Exact} : a ≤ b ↔ a.le b = true :=
  Iff.rfl

theorem undefined_iff {a : Exact} : Undefined a ↔ a = .undefined := by
  cases a <;> simp [Undefined, le_iff, le, agree, lt]

theorem specialValues : SpecialValues (fun x : Exact ↦ ∃ q, x = .finite q) (.infinite false) where
  zero_mul_infinite := undefined_iff.mpr (by decide)
  one_mul_infinite := by decide
  undefined_add x y hx := by
    rw [undefined_iff.mp hx]
    exact undefined_iff.mpr rfl
  add_undefined x y hy := by
    rw [undefined_iff.mp hy]
    cases x <;> exact undefined_iff.mpr rfl
  undefined_not_le x y hx := by
    rw [undefined_iff.mp hx, le_iff]
    simp [le, agree, lt]
  infinite_le := by decide
  infinite_add_infinite := rfl
  infinite_add := by
    rintro _ ⟨q, rfl⟩
    rfl
  add_infinite := by
    rintro _ ⟨q, rfl⟩
    rfl
  finite_zero := ⟨0, rfl⟩
  finite_add := by
    rintro _ _ ⟨q, rfl⟩ ⟨r, rfl⟩
    exact ⟨q + r, rfl⟩
  finite_zero_mul := by
    rintro _ ⟨q, rfl⟩
    exact ⟨0 * q, rfl⟩
  finite_one_mul := by
    rintro _ ⟨q, rfl⟩
    exact ⟨1 * q, rfl⟩

end Number.Exact

/-! ## Sample collections -/

namespace Sample

/-- Three sets, of which the second has an element in common with the first. -/
def pouches : List Value :=
  [.frozen [.integer 1], .frozen [.integer 1, .integer 2], .frozen [.integer 3]]

def contents : Value → List Value
  | .frozen xs => xs
  | _ => []

/-- A set is called by the whole numbers in it. -/
def setName (v : Value) : String :=
  toString ((contents v).filterMap fun
    | .integer n => some n
    | _ => none)

def weightText : Number.Exact → String
  | .undefined => "nan"
  | .infinite negative => if negative then "-inf" else "inf"
  | .finite value => toString value

/-- A set of two elements has an infinite weight. -/
def priceless : Value → Number.Exact
  | .frozen [_, _] => .infinite false
  | _ => .finite 1

theorem collects_integers (ns : List Int) (hdistinct : Distinct (ns.map Value.integer)) :
    (Value.frozen (ns.map .integer)).Collects (ns.map .integer) := by
  refine ⟨.elements rfl (fun x hx ↦ ?_) hdistinct, rfl, fun x hx ↦ ?_⟩
  · obtain ⟨n, -, rfl⟩ := List.mem_map.mp hx
    exact .integer n
  · obtain ⟨n, -, rfl⟩ := List.mem_map.mp hx
    simp [Value.beElement, Value.changeable?]

theorem eraseDups_pouches : pouches.eraseDups = pouches :=
  Distinct.eraseDups_eq (by decide +kernel)

theorem collects_pouches : ∀ v ∈ pouches.eraseDups, v.Collects (contents v) := by
  intro v hv
  rw [eraseDups_pouches] at hv
  simp only [pouches, List.mem_cons, List.not_mem_nil, or_false] at hv
  rcases hv with rfl | rfl | rfl
  · exact collects_integers [1] (by decide +kernel)
  · exact collects_integers [1, 2] (by decide +kernel)
  · exact collects_integers [3] (by decide +kernel)

theorem priceless_ends : ∀ v ∈ pouches.eraseDups,
    Call.Ends ((Weighing.known priceless : Weighing Caller Value _ _).number v) (· = priceless v)
      fun _ ↦ False :=
  fun _ _ ↦ .pure rfl

end Sample

namespace DisjointRow

variable {α φ : Type} {p : α → α → Bool} {values : List α} {weight : α → φ}

/-! ## The first undefined row -/

section Heaviest

variable [LE φ] [DecidableLE φ]

theorem foldl_heavier_of_undefined {x : φ} (h : Undefined x) (i : Nat) (rows : List (φ × Nat)) :
    rows.foldl heavier (x, i) = (x, i) := by
  induction rows with
  | nil => rfl
  | cons row rows ih => rw [List.foldl_cons, heavier, if_neg fun hle ↦ h hle.1, ih]

theorem foldl_heavier_le_self {rows : List (φ × Nat)} (hrows : ∀ row ∈ rows, row.1 ≤ row.1)
    {best : φ × Nat} (h : best.1 ≤ best.1) :
    (rows.foldl heavier best).1 ≤ (rows.foldl heavier best).1 := by
  induction rows generalizing best with
  | nil => exact h
  | cons row rows ih =>
    obtain ⟨hrow, hrows⟩ := List.forall_mem_cons.mp hrows
    rw [List.foldl_cons, heavier]
    split
    · exact ih hrows hrow
    · exact ih hrows h

/-- The first row of undefined weight is found. -/
theorem heaviest_of_undefined {before after : List φ} {x : φ} (hx : ∀ y, ¬ x ≤ y)
    (hbefore : ∀ r ∈ before, r ≤ r) : heaviest (before ++ x :: after).zipIdx = before.length := by
  rw [List.zipIdx_append, List.zipIdx_cons, Nat.zero_add]
  cases before with
  | nil =>
    rw [List.zipIdx_nil, List.nil_append, heaviest, foldl_heavier_of_undefined (hx x)]
  | cons r before =>
    obtain ⟨hr, hbefore⟩ := List.forall_mem_cons.mp hbefore
    have hrows : ∀ row ∈ before.zipIdx 1, row.1 ≤ row.1 := fun row hrow ↦
      hbefore _ (List.fst_mem_of_mem_zipIdx hrow)
    have hbest : ((before.zipIdx 1).foldl heavier (r, 0)).1 ≤
        ((before.zipIdx 1).foldl heavier (r, 0)).1 := foldl_heavier_le_self hrows hr
    rw [List.zipIdx_cons, List.cons_append, heaviest, List.foldl_append, List.foldl_cons,
      heavier, if_pos ⟨hbest, hx _⟩, foldl_heavier_of_undefined (hx x)]

end Heaviest

/-! ## Sums with special values -/

section Rows

variable [Zero φ] [One φ] [Add φ] [Mul φ] [LE φ] {finite : φ → Prop} {infinite : φ}
variable (h : SpecialValues finite infinite)
include h

theorem foldl_add_undefined {x : φ} (hx : Undefined x) (terms : List φ) :
    Undefined (terms.foldl (· + ·) x) := by
  induction terms generalizing x with
  | nil => exact hx
  | cons t terms ih => exact ih (h.undefined_add x t hx)

/-- A sum is undefined if one of its terms is. -/
theorem foldl_add_undefined_of_mem {t : φ} (ht : Undefined t) {terms : List φ} (hmem : t ∈ terms)
    (sum : φ) : Undefined (terms.foldl (· + ·) sum) := by
  induction terms generalizing sum with
  | nil => exact absurd hmem List.not_mem_nil
  | cons u terms ih =>
    rcases List.mem_cons.mp hmem with rfl | hmem
    · exact foldl_add_undefined h (h.add_undefined sum t ht) terms
    · exact ih hmem (sum + u)

theorem foldl_add_infinite {terms : List φ} (hterms : ∀ t ∈ terms, finite t ∨ t = infinite) :
    terms.foldl (· + ·) infinite = infinite := by
  induction terms with
  | nil => rfl
  | cons t terms ih =>
    obtain ⟨ht, hterms⟩ := List.forall_mem_cons.mp hterms
    rw [List.foldl_cons]
    rcases ht with ht | rfl
    · rw [h.infinite_add t ht, ih hterms]
    · rw [h.infinite_add_infinite, ih hterms]

/-- A sum of finite terms and infinite ones is infinite if there is an infinite one. -/
theorem foldl_add_infinite_of_mem {terms : List φ}
    (hterms : ∀ t ∈ terms, finite t ∨ t = infinite) (hmem : infinite ∈ terms) {sum : φ}
    (hsum : finite sum) : terms.foldl (· + ·) sum = infinite := by
  induction terms generalizing sum with
  | nil => exact absurd hmem List.not_mem_nil
  | cons t terms ih =>
    obtain ⟨ht, hterms⟩ := List.forall_mem_cons.mp hterms
    rw [List.foldl_cons]
    by_cases hinfinite : t = infinite
    · rw [hinfinite, h.add_infinite sum hsum, foldl_add_infinite h hterms]
    · have hfinite := ht.resolve_right hinfinite
      refine ih hterms ((List.mem_cons.mp hmem).resolve_left fun heq ↦ hinfinite heq.symm) ?_
      exact h.finite_add sum t hsum hfinite

end Rows

/-! ## The weights of rows -/

section Weights

variable [Zero φ] [One φ] [Mul φ]

/-- What the weights of the candidates add to the weight of a row. -/
def rowTerms (p : α → α → Bool) (weight : α → φ) (values : List α) (i : Nat) : List φ :=
  (values.map weight).zipIdx.map fun item ↦
    (if i != item.2 && !(tableOf p values).cell i item.2 then 1 else 0) * item.1

theorem rowWeight_eq_foldl [Add φ] (p : α → α → Bool) (weight : α → φ) (values : List α) (i : Nat)
    (own : φ) : rowWeight (tableOf p values) (values.map weight) i own =
      own + (rowTerms p weight values i).foldl (· + ·) 0 := by
  rw [rowWeight, rowTerms, List.foldl_map]

theorem mem_rowTerms {i : Nat} {a : α} (hi : values[i]? = some a) {t : φ} :
    t ∈ rowTerms p weight values i ↔ ∃ j b, values[j]? = some b ∧
      t = (if i ≠ j ∧ p a b = false then 1 else 0) * weight b := by
  have hfactor : ∀ j b, values[j]? = some b →
      ((i != j && !(tableOf p values).cell i j) = true ↔ i ≠ j ∧ p a b = false) := by
    intro j b hj
    have hrange : j ∈ List.range values.length :=
      List.mem_range.mpr (List.getElem?_eq_some_iff.mp hj).1
    rw [← mem_partners hi hj, partners, List.mem_filter, and_iff_right hrange]
  simp only [rowTerms, List.mem_map, Prod.exists, List.mem_zipIdx_iff_getElem?,
    List.getElem?_map, Option.map_eq_some_iff]
  constructor
  · rintro ⟨-, j, ⟨b, hj, rfl⟩, rfl⟩
    exact ⟨j, b, hj, by simp only [hfactor j b hj]⟩
  · rintro ⟨j, b, hj, rfl⟩
    exact ⟨weight b, j, ⟨b, hj, rfl⟩, by simp only [hfactor j b hj]⟩

variable [Add φ] [LE φ] {finite : φ → Prop} {infinite : φ} (h : SpecialValues finite infinite)
include h

/-- A row has an undefined weight if its owner is the infinite candidate or is in conflict with
it. -/
theorem undefined_rowWeight {i k : Nat} {a v : α} (hi : values[i]? = some a)
    (hk : values[k]? = some v) (hv : weight v = infinite) (howner : i = k ∨ p a v = true) :
    Undefined (rowWeight (tableOf p values) (values.map weight) i (weight a)) := by
  rw [rowWeight_eq_foldl]
  refine h.add_undefined _ _ (foldl_add_undefined_of_mem h h.zero_mul_infinite ?_ 0)
  refine (mem_rowTerms hi).mpr ⟨k, v, hk, ?_⟩
  rw [if_neg, hv]
  rintro ⟨hik, hdisjoint⟩
  rcases howner with heq | heq
  · exact hik heq
  · exact Bool.noConfusion (heq.symm.trans hdisjoint)

/-- All other rows weigh infinitely much. -/
theorem rowWeight_eq_infinite {i k : Nat} {a v : α} (hi : values[i]? = some a)
    (hk : values[k]? = some v) (hv : weight v = infinite)
    (hfinite : ∀ j b, values[j]? = some b → j ≠ k → finite (weight b)) (hik : i ≠ k)
    (hdisjoint : p a v = false) :
    rowWeight (tableOf p values) (values.map weight) i (weight a) = infinite := by
  have hterms : ∀ t ∈ rowTerms p weight values i, finite t ∨ t = infinite := by
    intro t ht
    obtain ⟨j, b, hj, rfl⟩ := (mem_rowTerms hi).mp ht
    by_cases hjk : j = k
    · have hb : b = v := Option.some.inj ((hjk ▸ hj).symm.trans hk)
      rw [hjk, hb, if_pos ⟨hik, hdisjoint⟩, hv]
      exact .inr h.one_mul_infinite
    · have hb := hfinite j b hj hjk
      split
      · exact .inl (h.finite_one_mul _ hb)
      · exact .inl (h.finite_zero_mul _ hb)
  have hmem : infinite ∈ rowTerms p weight values i := by
    refine (mem_rowTerms hi).mpr ⟨k, v, hk, ?_⟩
    rw [if_pos ⟨hik, hdisjoint⟩, hv, h.one_mul_infinite]
  rw [rowWeight_eq_foldl, foldl_add_infinite_of_mem h hterms hmem h.finite_zero,
    h.add_infinite _ (hfinite i a hi hik)]

/-- The heaviest row is the one of the first candidate that is in conflict with the infinite one, or
is it. -/
theorem heaviest_rowWeights [DecidableLE φ] {earlier later : List α} {u v : α} {k : Nat}
    (hk : (earlier ++ u :: later)[k]? = some v) (hv : weight v = infinite)
    (hfinite : ∀ j b, (earlier ++ u :: later)[j]? = some b → j ≠ k → finite (weight b))
    (howner : earlier.length = k ∨ p u v = true)
    (hearlier : ∀ i a, earlier[i]? = some a → i ≠ k ∧ p a v = false) :
    heaviest (rowWeights p weight (earlier ++ u :: later)).zipIdx = earlier.length := by
  set values := earlier ++ u :: later with hvalues
  set row : φ × Nat → φ := fun item ↦
    rowWeight (tableOf p values) (values.map weight) item.2 item.1
  have hrows : rowWeights p weight values = (earlier.map weight).zipIdx.map row ++
      row (weight u, earlier.length) ::
        ((later.map weight).zipIdx (earlier.length + 1)).map row := by
    change (values.map weight).zipIdx.map row = _
    rw [hvalues, List.map_append, List.map_cons, List.zipIdx_append, List.zipIdx_cons,
      List.map_append, List.map_cons, List.length_map, Nat.zero_add]
  have hu : Undefined (row (weight u, earlier.length)) :=
    undefined_rowWeight h (by simp [hvalues]) hk hv howner
  have hdefined : ∀ r ∈ (earlier.map weight).zipIdx.map row, r ≤ r := by
    intro r hr
    simp only [List.mem_map, Prod.exists, List.mem_zipIdx_iff_getElem?, List.getElem?_map,
      Option.map_eq_some_iff] at hr
    obtain ⟨-, i, ⟨a, hi, rfl⟩, rfl⟩ := hr
    obtain ⟨hik, hdisjoint⟩ := hearlier i a hi
    have hplace : values[i]? = some a := by
      rw [hvalues, List.getElem?_append_left (List.getElem?_eq_some_iff.mp hi).1, hi]
    have hrow : row (weight a, i) = infinite :=
      rowWeight_eq_infinite h hplace hk hv hfinite hik hdisjoint
    rw [hrow]
    exact h.infinite_le
  rw [hrows, heaviest_of_undefined (fun y ↦ h.undefined_not_le _ y hu) hdefined, List.length_map,
    List.length_zipIdx, List.length_map]

end Weights

/-! ## What is selected -/

section Selected

variable [Zero φ] [One φ] [Add φ] [Mul φ] [LE φ] [DecidableLE φ]
variable {finite : φ → Prop} {infinite : φ} {v : α}

/-- The row of the first value that is in conflict with the infinite one, or is it, is selected. -/
theorem mem_answeredRow (h : SpecialValues finite infinite) (hv : values.Nodup)
    (hmem : v ∈ values) (hinfinite : weight v = infinite)
    (hfinite : ∀ a ∈ values, a ≠ v → finite (weight a)) {earlier later : List α} {u : α}
    (hsplit : values = earlier ++ u :: later) (howner : u = v ∨ p u v = true)
    (hearlier : ∀ a ∈ earlier, a ≠ v ∧ p a v = false) (b : α) :
    b ∈ answeredRow p weight values ↔ b ∈ values ∧ (b = u ∨ p u b = false) := by
  unfold answeredRow
  split
  next hsize =>
    have hone : values = [u] := by
      have hlength := congrArg List.length hsplit
      rw [List.length_append, List.length_cons] at hlength
      rw [hsplit, List.length_eq_zero_iff.mp (by omega : earlier.length = 0),
        List.length_eq_zero_iff.mp (by omega : later.length = 0), List.nil_append]
    rw [hone, List.mem_singleton]
    exact ⟨fun hb ↦ ⟨hb, .inl hb⟩, And.left⟩
  · obtain ⟨k, hk⟩ := List.mem_iff_getElem?.mp hmem
    have hplaces : ∀ j, values[j]? = some v → j = k := fun j hj ↦
      (List.getElem?_inj (List.getElem?_eq_some_iff.mp hj).1 hv).mp (hj.trans hk.symm)
    have hu : values[earlier.length]? = some u := by simp [hsplit]
    have hheaviest : heaviest (rowWeights p weight values).zipIdx = earlier.length := by
      rw [hsplit] at hk ⊢
      refine heaviest_rowWeights h hk hinfinite (fun j a hj hjk ↦ ?_) (howner.imp_left ?_)
        fun i a hi ↦ ?_
      · rw [← hsplit] at hj
        refine hfinite a (List.mem_of_getElem? hj) ?_
        rintro rfl
        exact hjk (hplaces j hj)
      · rintro rfl
        exact hplaces _ hu
      · obtain ⟨hav, hdisjoint⟩ := hearlier a (List.mem_of_getElem? hi)
        refine ⟨?_, hdisjoint⟩
        rintro rfl
        rw [List.getElem?_append_left (List.getElem?_eq_some_iff.mp hi).1, hi] at hk
        exact hav (Option.some.inj hk)
    rw [hheaviest, mem_rowOf hu]

/-- What is selected if one value is infinite and the others are finite. -/
structure InfiniteRow (p : α → α → Bool) (values before : List α) (v : α) (S : List α) : Prop where
  mem_iff : v ∈ S ↔ ∀ a ∈ before, p a v = false
  row : ∀ earlier u later, values = earlier ++ u :: later → (u = v ∨ p u v = true) →
    (∀ a ∈ earlier, a ≠ v ∧ p a v = false) → ∀ b, b ∈ S ↔ b ∈ values ∧ (b = u ∨ p u b = false)

theorem infiniteRow_answeredRow (h : SpecialValues finite infinite) (hv : values.Nodup)
    {before after : List α} (hsplit : values = before ++ v :: after)
    (hinfinite : weight v = infinite) (hfinite : ∀ a ∈ before ++ after, finite (weight a)) :
    InfiniteRow p values before v (answeredRow p weight values) := by
  have hmem : v ∈ values := by simp [hsplit]
  have hfinite' : ∀ a ∈ values, a ≠ v → finite (weight a) := by
    intro a ha hav
    refine hfinite a ?_
    rw [hsplit] at ha
    simpa [hav] using ha
  have hrow : ∀ earlier u later, values = earlier ++ u :: later → (u = v ∨ p u v = true) →
      (∀ a ∈ earlier, a ≠ v ∧ p a v = false) → ∀ b, b ∈ answeredRow p weight values ↔
        b ∈ values ∧ (b = u ∨ p u b = false) :=
    fun _ _ _ hsplit howner hearlier ↦
      mem_answeredRow h hv hmem hinfinite hfinite' hsplit howner hearlier
  have hne : ∀ a ∈ before, a ≠ v := fun a ha ↦ by
    rw [hsplit] at hv
    exact (List.nodup_append.mp hv).2.2 a ha v List.mem_cons_self
  refine ⟨?_, hrow⟩
  cases hfind : before.find? (p · v) with
  | none =>
    have hfree : ∀ a ∈ before, p a v = false := fun a ha ↦ by
      simpa using List.find?_eq_none.mp hfind a ha
    rw [hrow before v after hsplit (.inl rfl) fun a ha ↦ ⟨hne a ha, hfree a ha⟩]
    exact ⟨fun _ ↦ hfree, fun _ ↦ ⟨hmem, .inl rfl⟩⟩
  | some u =>
    obtain ⟨hu, earlier, rest, hbefore, hearlier⟩ := List.find?_eq_some_iff_append.mp hfind
    have hub : u ∈ before := by simp [hbefore]
    have hsplit' : values = earlier ++ u :: (rest ++ v :: after) := by
      rw [hsplit, hbefore, List.append_assoc, List.cons_append]
    rw [hrow earlier u _ hsplit' (.inr hu) fun a ha ↦
      ⟨hne a (by simp [hbefore, ha]), by simpa using hearlier a ha⟩]
    constructor
    · rintro ⟨-, heq | hdisjoint⟩
      · exact absurd heq.symm (hne u hub)
      · exact Bool.noConfusion (hu.symm.trans hdisjoint)
    · intro hfree
      exact Bool.noConfusion (hu.symm.trans (hfree u hub))

end Selected

/-! ## The run -/

section Run

open Value (overlap)

variable {ω : Type} [Zero φ] [One φ] [Add φ] [Mul φ] [LE φ] [DecidableLE φ]
variable {finite : φ → Prop} {infinite : φ} {labels : Labels Caller Value φ}
variable {tabulate : Tabulator} {candidates : List Value} {weighing : Weighing Caller Value ω φ}
variable {weight : Value → φ} {elementsOf : Value → List Value} {fails : Failure → Prop}

/-- If one collection has an infinite weight and the others have finite ones, the row of the first
collection that has an element in common with it, or is it, is selected.  So it is selected if and
only if no earlier one has an element in common with it.  Where a collection cannot be printed or the
table of the rows cannot be laid out, a run may fail as that does. -/
theorem find_infinite (h : SpecialValues finite infinite)
    (hcollects : ∀ a ∈ candidates.eraseDups, a.Collects (elementsOf a))
    (hnumber : ∀ a ∈ candidates.eraseDups, Call.Ends (weighing.number a) (· = weight a) fails)
    (hlabels : ∀ a ∈ candidates.eraseDups, Call.Ends (labels.vertex a) (fun _ ↦ True) fails)
    (htable : Tabled labels tabulate (fun a b ↦ overlap (elementsOf a) (elementsOf b)) weight
      candidates.eraseDups fails)
    {before after : List Value} {v : Value} (hsplit : candidates.eraseDups = before ++ v :: after)
    (hinfinite : weight v = infinite) (hfinite : ∀ a ∈ before ++ after, finite (weight a)) :
    Call.Ends (find labels tabulate candidates Value.intersects weighing)
      (InfiniteRow (fun a b ↦ overlap (elementsOf a) (elementsOf b)) candidates.eraseDups before v)
      fails := by
  have hv : candidates.eraseDups.Nodup := (distinct_eraseDups candidates).nodup_of_self
    fun a ha ↦ (hcollects a ha).comparable.same_self
  have hintersects : ∀ a ∈ candidates.eraseDups, ∀ b ∈ candidates.eraseDups,
      Call.Ends (a.intersects b) (· = overlap (elementsOf a) (elementsOf b)) fails :=
    fun a ha b hb ↦ Value.intersects_ends (hcollects a ha) (hcollects b hb)
  refine (find_ends_answeredRow hintersects hnumber hlabels htable).mono fun S hS ↦ ?_
  rw [hS]
  exact infiniteRow_answeredRow h hv hsplit hinfinite hfinite

theorem find_infinite_sample :
    (Sample.pouches.eraseDups =
        [.frozen [.integer 1]] ++ .frozen [.integer 1, .integer 2] :: [.frozen [.integer 3]] ∧
      Sample.priceless (.frozen [.integer 1, .integer 2]) = .infinite false) ∧
    Call.Ends
      (find ⟨fun v ↦ pure (Sample.setName v), Sample.weightText⟩ (fun _ _ ↦ .ok ()) Sample.pouches
        Value.intersects (.known Sample.priceless))
      (InfiniteRow (fun a b ↦ overlap (Sample.contents a) (Sample.contents b))
        Sample.pouches.eraseDups [.frozen [.integer 1]] (.frozen [.integer 1, .integer 2]))
      fun _ ↦ False := by
  refine ⟨⟨Sample.eraseDups_pouches, rfl⟩, find_infinite Number.Exact.specialValues
    Sample.collects_pouches Sample.priceless_ends (fun _ _ ↦ .pure trivial)
    (.of_total (fun _ _ ↦ rfl) fun _ _ ↦ .pure trivial)
    Sample.eraseDups_pouches rfl fun a ha ↦ ?_⟩
  simp only [List.cons_append, List.nil_append, List.mem_cons, List.not_mem_nil, or_false] at ha
  rcases ha with rfl | rfl
  · exact ⟨1, rfl⟩
  · exact ⟨1, rfl⟩

/-- A collection of infinite weight is not selected if an earlier one has an element in common with
it. -/
theorem find_infinite_excluded :
    (Sample.pouches.map Sample.priceless = [.finite 1, .infinite false, .finite 1] ∧
      Value.frozen [.integer 1, .integer 2] ∈ Sample.pouches ∧
      Sample.priceless (.frozen [.integer 1, .integer 2]) = .infinite false) ∧
    Call.Ends
      (find ⟨fun v ↦ pure (Sample.setName v), Sample.weightText⟩ (fun _ _ ↦ .ok ()) Sample.pouches
        Value.intersects (.known Sample.priceless))
      (· = [.frozen [.integer 1], .frozen [.integer 3]]) fun _ ↦ False := by
  refine ⟨⟨rfl, by simp [Sample.pouches], rfl⟩, ?_⟩
  set p : Value → Value → Bool := fun a b ↦ overlap (Sample.contents a) (Sample.contents b)
  have howner : heaviest (rowWeights p Sample.priceless Sample.pouches).zipIdx = 0 := by
    decide +kernel
  have hpartners : partners (tableOf p Sample.pouches) Sample.pouches.length 0 = [2] := by
    decide +kernel
  have hanswer : answeredRow p Sample.priceless Sample.pouches =
      [.frozen [.integer 1], .frozen [.integer 3]] := by
    rw [answeredRow, if_neg (by decide), howner, rowOf, hpartners]
    rfl
  refine (find_ends_answeredRow (fun a ha b hb ↦ Value.intersects_ends
    (Sample.collects_pouches a ha) (Sample.collects_pouches b hb)) Sample.priceless_ends
    (fun _ _ ↦ .pure trivial) (.of_total (fun _ _ ↦ rfl) fun _ _ ↦ .pure trivial)).mono
    fun S hS ↦ ?_
  rw [hS, Sample.eraseDups_pouches, hanswer]

end Run

end DisjointRow

end Loadout
