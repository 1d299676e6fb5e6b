import Loadout.Proofs.Selection.ByComponent
import Loadout.Proofs.Selection.DisjointRow
import Loadout.Proofs.Value.Intersection
import Mathlib.Algebra.Order.Ring.Int

/-!
# The heaviest row and the exact selection

For collections with exact weights of which none is negative, the heaviest row is an upper bound for
the selection by components, and it is an exact answer itself if and only if its members are
disjoint from each other, `DisjointRow.find_bounds`.
-/

namespace Loadout

open Value (overlap)

/-! ## Sample collections -/

namespace Sample

/-- Collections of several kinds, one of them empty and one named twice. -/
def collections : List Value :=
  [.frozen [.integer 1, .integer 2], .tuple [.integer 1, .integer 3],
    .frozen [.integer 0, .integer 3], .frozen [], .frozen [.integer 2, .integer 1],
    .tuple [.integer 0, .truth true, .integer 0]]

/-- The elements of a collection. -/
def elementsOf : Value → List Value
  | .frozen xs | .tuple xs => xs
  | _ => []

/-- A collection is called by the numbers in it. -/
def collectionName (v : Value) : String :=
  toString ((elementsOf v).filterMap fun
    | .integer n => some n
    | .truth b => some b.toInt
    | _ => none)

/-- A collection weighs what it has elements. -/
def size (v : Value) : Int :=
  (elementsOf v).length

end Sample

namespace DisjointRow

variable {ω φ : Type} [Ring φ] [LinearOrder φ] [IsOrderedAddMonoid φ]
variable {rowLabels labels : Labels Caller Value φ} {tabulate : Tabulator} {limit : SizeLimit}
variable {candidates : List Value}
variable {weighing : Weighing Caller Value ω φ} {weight : Value → φ}
variable {elementsOf : Value → List Value} {fails : Failure → Prop}

/-- The heaviest row is at least as heavy as the selection by components, and no family of disjoint
candidates is heavier than it; so it is a heaviest such family as soon as it is one.  Where a
candidate cannot be printed or the table of the rows cannot be laid out, a run may fail as that
does. -/
theorem find_bounds (hcollects : ∀ v ∈ candidates.eraseDups, v.Collects (elementsOf v))
    (hexact : weighing.Exact weight candidates.eraseDups)
    (hweight : ∀ v ∈ candidates.eraseDups, 0 ≤ weight v)
    (hrowLabels : ∀ v ∈ candidates.eraseDups,
      Call.Ends (rowLabels.vertex v) (fun _ ↦ True) fails)
    (htable : Tabled rowLabels tabulate (fun a b ↦ overlap (elementsOf a) (elementsOf b)) weight
      candidates.eraseDups fails)
    (hlabels : ∀ v ∈ candidates.eraseDups, Call.Ends (labels.vertex v) (fun _ ↦ True) fails)
    (hlimit : ∀ n e, limit.exceededBy n = .error e → fails e) :
    ∃ R S : List Value,
      Call.Ends (find rowLabels tabulate candidates Value.intersects weighing) (· = R) fails ∧
      Call.Ends (ByComponent.find labels limit candidates Value.intersects weighing) (· = S)
        fails ∧
      total weight S ≤ total weight R ∧
      ((Independent (fun a b ↦ overlap (elementsOf a) (elementsOf b)) candidates.eraseDups R ∧
          ∀ T,
            Independent (fun a b ↦ overlap (elementsOf a) (elementsOf b)) candidates.eraseDups T →
              total weight T ≤ total weight R) ↔
        ∀ a ∈ R, ∀ b ∈ R, a ≠ b → overlap (elementsOf a) (elementsOf b) = false) := by
  set values := candidates.eraseDups with hvalues
  set p : Value → Value → Bool := fun a b ↦ overlap (elementsOf a) (elementsOf b)
  have hv : values.Nodup := (distinct_eraseDups candidates).nodup_of_self fun v hv ↦
    (hcollects v hv).comparable.same_self
  have hintersects : ∀ a ∈ values, ∀ b ∈ values,
      Call.Ends (a.intersects b) (· = p a b) fails := fun a ha b hb ↦
    Value.intersects_ends (hcollects a ha) (hcollects b hb)
  have hsymm : SymmetricOn p values :=
    List.Pairwise.imp_of_mem (fun {a b} ha hb _ ↦ Value.overlap_comm
      (hcollects a ha).comparable_elements (hcollects b hb).comparable_elements) hv
  have hnumber : ∀ a ∈ values, Call.Ends (weighing.number a) (· = weight a) fails :=
    fun a ha ↦ (hexact.number a ha).of_total
  have hbound : ∀ T, Independent p values T →
      total weight T ≤ total weight (selectedRow p weight values) :=
    fun T hT ↦ total_le_total_selectedRow hv hweight hT
  refine ⟨selectedRow p weight values, _, find_ends hintersects hnumber hrowLabels htable,
    ByComponent.find_ends_solution hintersects hexact hlabels hlimit, hbound _ ?_, ?_⟩
  · rw [← hvalues]
    split
    next hsize => exact independent_of_length_lt_two p hsize
    · exact independent_solution weight hv hsymm
  · constructor
    · rintro ⟨hindependent, -⟩
      exact hindependent.apart
    · intro hapart
      exact ⟨⟨selectedRow_subset p weight values, nodup_selectedRow hv p weight, hapart⟩, hbound⟩

theorem find_bounds_sample :
    ((∀ v ∈ Sample.collections.eraseDups, v.Collects (Sample.elementsOf v)) ∧
      ∀ v ∈ Sample.collections.eraseDups, 0 ≤ Sample.size v) ∧
    ∃ R S : List Value,
      Call.Ends
        (find ⟨fun v ↦ pure (Sample.collectionName v), toString⟩ (fun _ _ ↦ .ok ())
          Sample.collections Value.intersects (.known Sample.size))
        (· = R) (fun _ ↦ False) ∧
      Call.Ends
        (ByComponent.find ⟨fun v ↦ pure (Sample.collectionName v), toString⟩ (.ofInt 2)
          Sample.collections Value.intersects (.known Sample.size)) (· = S) (fun _ ↦ False) ∧
      total Sample.size S ≤ total Sample.size R ∧
      ((Independent (fun a b ↦ overlap (Sample.elementsOf a) (Sample.elementsOf b))
            Sample.collections.eraseDups R ∧
          ∀ T, Independent (fun a b ↦ overlap (Sample.elementsOf a) (Sample.elementsOf b))
              Sample.collections.eraseDups T →
            total Sample.size T ≤ total Sample.size R) ↔
        ∀ a ∈ R, ∀ b ∈ R, a ≠ b →
          overlap (Sample.elementsOf a) (Sample.elementsOf b) = false) := by
  have hcollects : ∀ v ∈ Sample.collections.eraseDups, v.Collects (Sample.elementsOf v) := by
    intro v hv
    have hv := (eraseDups_sublist _).subset hv
    simp only [Sample.collections, List.mem_cons, List.not_mem_nil, or_false] at hv
    have hnumbers : ∀ x ∈ Sample.elementsOf v,
        (∃ n, x = .integer n) ∨ ∃ b, x = .truth b := by
      rcases hv with rfl | rfl | rfl | rfl | rfl | rfl <;> simp [Sample.elementsOf]
    have hcomparable : ∀ x ∈ Sample.elementsOf v, x.Comparable := by
      intro x hx
      rcases hnumbers x hx with ⟨n, rfl⟩ | ⟨b, rfl⟩
      · exact .integer n
      · exact .truth b
    have hhashable : ∀ x ∈ Sample.elementsOf v, x.beElement = .ok () := by
      intro x hx
      rcases hnumbers x hx with ⟨n, rfl⟩ | ⟨b, rfl⟩ <;> simp [Value.beElement, Value.changeable?]
    rcases hv with rfl | rfl | rfl | rfl | rfl | rfl
    · exact ⟨.elements rfl hcomparable (by decide +kernel), rfl, hhashable⟩
    · exact ⟨.tuple hcomparable, rfl, hhashable⟩
    · exact ⟨.elements rfl hcomparable (by decide +kernel), rfl, hhashable⟩
    · exact ⟨.elements rfl hcomparable .nil, rfl, hhashable⟩
    · exact ⟨.elements rfl hcomparable (by decide +kernel), rfl, hhashable⟩
    · exact ⟨.tuple hcomparable, rfl, hhashable⟩
  have hweight : ∀ v ∈ Sample.collections.eraseDups, 0 ≤ Sample.size v := fun v _ ↦
    Int.natCast_nonneg _
  exact ⟨⟨hcollects, hweight⟩,
    find_bounds hcollects (Weighing.exact_known _ _) hweight
      (fun _ _ ↦ .pure trivial) (.of_total (fun _ _ ↦ rfl) fun _ _ ↦ .pure trivial)
      (fun _ _ ↦ .pure trivial) SizeLimit.exceededBy_two_ne_error⟩

end DisjointRow

end Loadout
