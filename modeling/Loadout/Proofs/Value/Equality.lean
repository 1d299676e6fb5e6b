import Loadout.Proofs.Value.Sameness
import Loadout.Value.Equality

/-!
# Equality and sameness

Where no machine numbers take part, two values are alike if and only if they are the same,
`Ordinary.alike_eq`; and equality is sameness too, except that an undefined number is equal to
nothing, `Ordinary.equal_eq`.
-/

namespace Loadout.Value

variable {x y : Value} {xs ys : List Value} {es fs : List (Value × Value)}

/-- A value of a form that an element of a set can have, without machine numbers in it. -/
inductive Ordinary : Value → Prop
  | nothing : Ordinary nothing
  | truth (b : Bool) : Ordinary (truth b)
  | integer (n : Int) : Ordinary (integer n)
  | real (x : Float) : Ordinary (real x)
  | undefined (i : Nat) : Ordinary (undefined i)
  | text (s : String) : Ordinary (text s)
  | bytes (bs : List UInt8) : Ordinary (bytes bs)
  | slot (s : Slot) : Ordinary (slot s)
  | frozen (xs : List Value) : Ordinary (frozen xs)
  | tuple {xs : List Value} (hxs : ∀ x ∈ xs, Ordinary x) : Ordinary (tuple xs)
  | equipment {i n : Value} {slots : List Value} {bonuses : List (Value × Value)}
    (hi : Ordinary i) (hn : Ordinary n) (hnames : ∀ e ∈ bonuses, Ordinary e.1)
    (hamounts : ∀ e ∈ bonuses, Ordinary e.2) : Ordinary (equipment i n slots bonuses)

namespace Ordinary

/-- Ordinary numbers are compared by their exact values. -/
theorem numbers?_eq (hx : Ordinary x) (hy : Ordinary y) :
    numbers? x y = .ok (match number? x, number? y with
      | some a, some b => some (a, b)
      | _, _ => none) := by
  cases hx <;> cases hy <;> rfl

theorem same_eq_agree (hx : Ordinary x) (hy : Ordinary y) {a b : Number.Exact}
    (ha : number? x = some a) (hb : number? y = some b)
    (hdefined : ∀ i j, x = Value.undefined i → y ≠ Value.undefined j) : same x y = a.agree b := by
  cases hx <;> cases hy <;> simp_all [same, number?]

/-- Apart from two undefined numbers, values that are not compared part by part agree if they are the
same. -/
theorem agree_eq (hx : Ordinary x) (hy : Ordinary y)
    (hdefined : ∀ i j, x = Value.undefined i → y ≠ Value.undefined j) : agree x y = .ok (same x y) := by
  have hcells : x.meetInCells y = false := by
    cases hx <;> cases hy <;> rfl
  rw [agree, hcells, numbers?_eq hx hy]
  cases ha : number? x with
  | none => rfl
  | some a =>
    cases hb : number? y with
    | none => rfl
    | some b =>
      rw [same_eq_agree hx hy ha hb hdefined]
      rfl

theorem alike_eq_of_agree (hx : Ordinary x) (hy : Ordinary y) (hform : alike x y = agree x y)
    (hdefined : ∀ i j, x = Value.undefined i → y ≠ Value.undefined j) :
    alike x y = .ok (same x y) :=
  hform.trans (agree_eq hx hy hdefined)

theorem alikeAll_eq (hys : ∀ y ∈ ys, Ordinary y)
    (ih : ∀ x ∈ xs, ∀ y, Ordinary y → alike x y = .ok (same x y)) :
    alikeAll xs ys = .ok (sameAll xs ys) := by
  induction xs generalizing ys with
  | nil => cases ys <;> simp [alikeAll, sameAll]
  | cons x xs ihxs =>
    cases ys with
    | nil => simp [alikeAll, sameAll]
    | cons y ys =>
      obtain ⟨hy, hys⟩ := List.forall_mem_cons.mp hys
      obtain ⟨hx, hxs⟩ := List.forall_mem_cons.mp ih
      rw [alikeAll, sameAll, hx y hy]
      cases same x y with
      | true => exact ihxs hys hxs
      | false => rfl

theorem alikePairs_eq (hnames : ∀ f ∈ fs, Ordinary f.1) (hamounts : ∀ f ∈ fs, Ordinary f.2)
    (ihnames : ∀ e ∈ es, ∀ y, Ordinary y → alike e.1 y = .ok (same e.1 y))
    (ihamounts : ∀ e ∈ es, ∀ y, Ordinary y → alike e.2 y = .ok (same e.2 y)) :
    alikePairs es fs = .ok (sameEntries es fs) := by
  induction es generalizing fs with
  | nil => cases fs <;> simp [alikePairs, sameEntries]
  | cons e es ih =>
    cases fs with
    | nil => simp [alikePairs, sameEntries]
    | cons f fs =>
      obtain ⟨hname, hnames⟩ := List.forall_mem_cons.mp hnames
      obtain ⟨hamount, hamounts⟩ := List.forall_mem_cons.mp hamounts
      obtain ⟨ihname, ihnames⟩ := List.forall_mem_cons.mp ihnames
      obtain ⟨ihamount, ihamounts⟩ := List.forall_mem_cons.mp ihamounts
      rw [alikePairs, sameEntries, ihname _ hname, ihamount _ hamount]
      have hrest := ih hnames hamounts ihnames ihamounts
      cases same e.1 f.1 with
      | false => rfl
      | true =>
        cases same e.2 f.2 with
        | false => rfl
        | true => exact hrest

/-- Ordinary values are one object or equal if and only if they are the same. -/
theorem alike_eq (hx : Ordinary x) (hy : Ordinary y) : alike x y = .ok (same x y) := by
  have hy' := hy
  induction hx generalizing y with
  | undefined i =>
    cases hy with
    | undefined j => rw [alike, same]
    | _ => exact alike_eq_of_agree (.undefined i) hy' (by simp only [alike]) (by simp)
  | tuple hxs ih =>
    cases hy with
    | tuple hys =>
      rw [alike, same]
      exact alikeAll_eq hys fun x hx y hy ↦ ih x hx hy hy
    | _ => exact alike_eq_of_agree (.tuple hxs) hy' (by simp only [alike]) (by simp)
  | @equipment i n slots bonuses hi hn hnames hamounts ihi ihn ihnames ihamounts =>
    cases hy with
    | @equipment i' n' slots' bonuses' hi' hn' hnames' hamounts' =>
      rw [alike, same, ihi hi' hi', ihn hn' hn', alikePairs_eq hnames' hamounts'
        (fun e he y hy ↦ ihnames e he hy hy) fun e he y hy ↦ ihamounts e he hy hy]
      generalize same i i' = sameId, same n n' = sameName
      generalize (slots.length == slots'.length && allIn slots slots') = sameSlots
      cases sameId <;> cases sameName <;> cases sameSlots <;> rfl
    | _ =>
      exact alike_eq_of_agree (.equipment hi hn hnames hamounts) hy' (by simp only [alike]) (by simp)
  | _ =>
    cases hy <;>
      exact alike_eq_of_agree (by constructor) hy' (by simp only [alike]) (by simp)

/-- An ordinary number that is not undefined, or a value that is no number, is equal to what it is
the same as. -/
theorem equal_eq (hx : Ordinary x) (hy : Ordinary y) (hdefined : ∀ i, x ≠ Value.undefined i) :
    equal x y = .ok (same x y) := by
  rw [equal]
  · exact alike_eq hx hy
  · exact hdefined

end Ordinary

end Loadout.Value
