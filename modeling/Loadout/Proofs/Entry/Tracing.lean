import Loadout.Entry.Solver
import Loadout.Proofs.Gear.Tracing

/-!
# Tracing the solvers

Neither the journal nor the settings have a say in what a solver finds, which is stated of all four
solvers at once, for functions of the caller that may fail and may keep a state of their own, and for
whatever lays out the tables, `solve_indifferent`.  What the caller is asked, and in which order, is
part of the caller's state in the end.
-/

namespace Loadout.Entry

open Run

/-- A problem for one of the solvers. -/
inductive Problem
  | byComponent (vertices : Value) (predicate : Supplied ValueRelation)
    (weight : Supplied ValueFunction)
  | exhaustive (vertices : Value) (predicate : Supplied ValueRelation)
    (weight : Supplied ValueFunction)
  | disjointRow (candidates : Value) (weight : Supplied ValueFunction)
  | gear (candidates : Value) (weight slots : Supplied ValueFunction)

namespace Problem

def solve (typeset : Typesetter) (settings : Settings) : Problem → Run Caller (List Value)
  | byComponent vertices predicate weight => findByComponent vertices predicate weight settings
  | exhaustive vertices predicate weight => findExhaustive vertices predicate weight
  | disjointRow candidates weight => findDisjointRow candidates weight typeset
  | gear candidates weight slots => findGear candidates weight slots settings typeset

/-- What would be traced of a problem that is posed to a caller in the given state can be printed:
the vertices that are read, and for gear the candidates that are left by the reductions. -/
def Presentable (s : Caller) : Problem → Prop
  | byComponent vertices _ _ | exhaustive vertices _ _ =>
    ∀ values t, vertices.toSet s = (.ok values, t) → vertexLabels.Printable values
  | disjointRow candidates _ =>
    ∀ values t, candidates.toSet s = (.ok values, t) → collectionLabels.Printable values
  | gear candidates weight slots =>
    ∀ values t, candidates.toSet s = (.ok values, t) →
      ∀ typeset f g, weight = .function f → slots.requireOr "slots" occupiedSlots = .ok g →
        ∀ left, Gear.LeftOver (wardrobe typeset f g) values t left →
          Gear.Presentable (wardrobe typeset f g) left

/-- The table that would be traced of a problem, if there is one, can be laid out. -/
def LaidOut (typeset : Typesetter) (s : Caller) : Problem → Prop
  | byComponent _ _ _ | exhaustive _ _ _ => True
  | disjointRow candidates weight =>
    ∀ values t, candidates.toSet s = (.ok values, t) → ∀ f, weight = .function f →
      2 ≤ values.eraseDups.length → ∀ rows u,
        DisjointRow.tracedRows collectionLabels Value.intersects (weighing f) values.eraseDups t =
            (.ok rows, u) →
          typeset.ofTexts DisjointRow.tableHeads rows = .ok ()
  | gear candidates weight slots =>
    ∀ values t, candidates.toSet s = (.ok values, t) →
      ∀ f g, weight = .function f → slots.requireOr "slots" occupiedSlots = .ok g → ∀ rows u,
        Gear.tracedRows (wardrobe typeset f g) values.eraseDups t = (.ok rows, u) →
          typeset.ofTexts Gear.tableHeads rows = .ok ()

end Problem

variable {α β : Type} {j j' : Journal} {s : Caller} {t : Transcript}

theorem requireCollection_eq {argument : String} {v w : Value}
    (h : requireCollection argument v = .ok w) : w = v := by
  cases v <;> cases h <;> rfl

theorem decides_sizeLimit {settings : Settings} {m : Int} (hm : m.natAbs < Value.writtenBound)
    (h : settings.maxComponentSize = .integer m) : settings.sizeLimit.Decides := by
  rw [Settings.sizeLimit, h, SizeLimit.ofValue_integer]
  exact .ofInt hm

/-- Runs that check something first, and go on alike. -/
theorem outcome_ofExcept_bind {result : Except Failure α} {k k' : α → Run Caller β}
    (h : ∀ a, result = .ok a → ∀ i i', (k a).outcome i s = (k' a).outcome i' s) :
    (Run.ofExcept result >>= k).outcome j s = (Run.ofExcept result >>= k').outcome j' s := by
  refine outcome_bind_eq rfl fun a t ha ↦ ?_
  obtain ⟨rfl, rfl⟩ := Prod.mk.inj ha
  exact h a rfl

variable {settings settings' : Settings} {vertices candidates : Value}
variable {predicate : Supplied ValueRelation} {weight slots : Supplied ValueFunction}
variable {typeset : Typesetter}

theorem findByComponent_alike (hlimit : settings.sizeLimit.Decides)
    (hlimit' : settings'.sizeLimit.Decides)
    (hlabels : ∀ values t, vertices.toSet s = (.ok values, t) → vertexLabels.Printable values) :
    (findByComponent vertices predicate weight settings).outcome j s =
      (findByComponent vertices predicate weight settings').outcome j' s := by
  refine outcome_ofExcept_bind fun v hv i i' ↦ ?_
  refine outcome_ofExcept_bind fun p _ i i' ↦ outcome_ofExcept_bind fun f _ i i' ↦ ?_
  obtain rfl := requireCollection_eq hv
  refine outcome_bind_eq rfl fun values t hvalues i i' ↦ ?_
  have hprintable := (hlabels values t hvalues).of_subset (eraseDups_sublist values).subset
  exact ByComponent.find_alike hlimit hlimit' hprintable i i' t

theorem findExhaustive_alike
    (hlabels : ∀ values t, vertices.toSet s = (.ok values, t) → vertexLabels.Printable values) :
    (findExhaustive vertices predicate weight).outcome j s =
      (findExhaustive vertices predicate weight).outcome j' s := by
  refine outcome_ofExcept_bind fun v hv i i' ↦ ?_
  refine outcome_ofExcept_bind fun p _ i i' ↦ outcome_ofExcept_bind fun f _ i i' ↦ ?_
  obtain rfl := requireCollection_eq hv
  refine outcome_bind_eq rfl fun values t hvalues i i' ↦ ?_
  have hprintable := (hlabels values t hvalues).of_subset (eraseDups_sublist values).subset
  exact Exhaustive.find_alike hprintable i i' t

theorem findDisjointRow_alike
    (hlabels : (Problem.disjointRow candidates weight).Presentable s)
    (htable : (Problem.disjointRow candidates weight).LaidOut typeset s) :
    (findDisjointRow candidates weight typeset).outcome j s =
      (findDisjointRow candidates weight typeset).outcome j' s := by
  refine outcome_ofExcept_bind fun v hv i i' ↦ outcome_ofExcept_bind fun f hf i i' ↦ ?_
  obtain rfl := requireCollection_eq hv
  refine outcome_bind_eq rfl fun values t hvalues i i' ↦ ?_
  have hprintable := (hlabels values t hvalues).of_subset (eraseDups_sublist values).subset
  exact DisjointRow.find_alike hprintable
    (htable values t hvalues f (Supplied.require_eq_ok_iff.mp hf)) i i'

theorem findGear_alike (hlimit : settings.sizeLimit.Decides)
    (hlimit' : settings'.sizeLimit.Decides)
    (hleft : (Problem.gear candidates weight slots).Presentable s)
    (htable : (Problem.gear candidates weight slots).LaidOut typeset s) :
    (findGear candidates weight slots settings typeset).outcome j s =
      (findGear candidates weight slots settings' typeset).outcome j' s := by
  rw [findGear, findGear, outcome_executing, outcome_executing]
  refine outcome_ofExcept_bind fun v hv i i' ↦ ?_
  refine outcome_ofExcept_bind fun f hf i i' ↦ outcome_ofExcept_bind fun g hg i i' ↦ ?_
  obtain rfl := requireCollection_eq hv
  refine outcome_bind_eq rfl fun values t hvalues i i' ↦ ?_
  have hweight := Supplied.require_eq_ok_iff.mp hf
  exact Gear.find_alike hlimit hlimit' (hleft values t hvalues typeset f g hweight hg)
    (htable values t hvalues f g hweight hg) i i'

/-- With a disabled journal no solver adds to the transcript. -/
theorem Problem.solve_muted (problem : Problem) (typeset : Typesetter) (settings : Settings) :
    Call.Preserves (Muted t) (problem.solve typeset settings) := by
  cases problem with
  | byComponent vertices predicate weight =>
    refine (muted_ofExcept _).bind fun v ↦ (muted_ofExcept _).bind fun p ↦ ?_
    exact (muted_ofExcept _).bind fun f ↦ (muted_ask _).bind fun values ↦ ByComponent.find_muted
  | exhaustive vertices predicate weight =>
    refine (muted_ofExcept _).bind fun v ↦ (muted_ofExcept _).bind fun p ↦ ?_
    exact (muted_ofExcept _).bind fun f ↦ (muted_ask _).bind fun values ↦ Exhaustive.find_muted
  | disjointRow candidates weight =>
    refine (muted_ofExcept _).bind fun v ↦ (muted_ofExcept _).bind fun f ↦ ?_
    exact (muted_ask _).bind fun values ↦ DisjointRow.find_muted
  | gear candidates weight slots =>
    refine muted_executing "find" ((muted_ofExcept _).bind fun v ↦ ?_)
    refine (muted_ofExcept _).bind fun f ↦ (muted_ofExcept _).bind fun g ↦ ?_
    exact (muted_ask _).bind fun values ↦ Gear.find_muted

/-- What a solver finds, or how it fails, and what it asks the caller on the way, is the same
whatever is in the journal and whatever the settings are, as long as the size in them is a whole
number that can be printed, what would be traced can be printed, and the table that would be traced
can be laid out.  With a disabled journal, the transcript stays as it is, also if the solver
fails. -/
theorem solve_indifferent (typeset : Typesetter) (problem : Problem)
    (settings settings' : Settings) (m m' : Int)
    (hsize : settings.maxComponentSize = .integer m) (hm : m.natAbs < Value.writtenBound)
    (hsize' : settings'.maxComponentSize = .integer m') (hm' : m'.natAbs < Value.writtenBound) :
    (∀ s, problem.Presentable s → problem.LaidOut typeset s → ∀ j j',
      (problem.solve typeset settings).outcome j s =
        (problem.solve typeset settings').outcome j' s) ∧
    ∀ w : World Caller, w.journal.disabled = true →
      (problem.solve typeset settings w).2.journal.transcript = w.journal.transcript := by
  have hlimit := decides_sizeLimit hm hsize
  have hlimit' := decides_sizeLimit hm' hsize'
  constructor
  · intro s hpresentable htable j j'
    cases problem with
    | byComponent => exact findByComponent_alike hlimit hlimit' hpresentable
    | exhaustive => exact findExhaustive_alike hpresentable
    | disjointRow => exact findDisjointRow_alike hpresentable htable
    | gear => exact findGear_alike hlimit hlimit' hpresentable htable
  · intro w hw
    have hmuted := problem.solve_muted typeset settings w ⟨hw, rfl⟩
    cases hsolve : problem.solve typeset settings w with
    | mk result after =>
      rw [hsolve] at hmuted
      cases result with
      | ok values => exact hmuted.2
      | error e => exact hmuted.2

namespace Sample

/-- Every weight is one, and the caller counts the questions. -/
def weighOne : ValueFunction := fun v c ↦
  (.ok (.integer 1), { c with weightsAsked := c.weightsAsked.push v })

def onBody : ValueFunction := fun _ ↦ pure (.list [.text "body"])

/-- A coat and nothing else. -/
def coat : Problem :=
  .gear (.list [.text "coat"]) (.function weighOne) (.function onBody)

theorem presentable_coat : coat.Presentable {} := by
  intro values t hvalues typeset f g hf hg left hleft
  cases hf
  cases hg
  have hread : (Value.list [.text "coat"]).toSet {} = (.ok [.text "coat"], {}) := rfl
  rw [hread] at hvalues
  obtain ⟨⟨⟩, ⟨⟩⟩ := Prod.mk.inj hvalues
  have hlabels : vertexLabels.Printable [Value.text "coat"] := by
    intro a ha
    rw [List.mem_singleton.mp ha]
    exact .ofExcept rfl trivial
  refine hleft.presentable hlabels fun a _ ↦ ?_
  have hworn : (wardrobe typeset weighOne onBody).slots a = pure [.text "body"] := rfl
  rw [hworn]
  refine .pure fun x hx ↦ ?_
  rw [List.mem_singleton.mp hx]
  exact .ofExcept rfl trivial

/-- A typesetter that lays out every table. -/
def anyTable : Typesetter := fun _ _ _ _ ↦ pure ()

theorem laidOut_coat : coat.LaidOut anyTable {} :=
  fun _ _ _ _ _ _ _ _ _ _ ↦ rfl

end Sample

theorem solve_indifferent_sample :
    ({} : Settings).maxComponentSize = .integer 24 ∧
      ({ maxComponentSize := .integer 0 } : Settings).maxComponentSize = .integer 0 ∧
      Sample.coat.Presentable {} ∧ Sample.coat.LaidOut Sample.anyTable {} ∧
      (Sample.coat.solve Sample.anyTable {}).outcome {} {} =
        (Sample.coat.solve Sample.anyTable { maxComponentSize := .integer 0 }).outcome
          { disabling := .truth false } {} ∧
      (Sample.coat.solve Sample.anyTable {} ⟨{}, {}⟩).2.journal.transcript = {} := by
  obtain ⟨houtcome, htranscript⟩ := solve_indifferent Sample.anyTable Sample.coat {}
    { maxComponentSize := .integer 0 } 24 0 rfl (by decide +kernel) rfl (by decide +kernel)
  exact ⟨rfl, rfl, Sample.presentable_coat, Sample.laidOut_coat,
    houtcome {} Sample.presentable_coat Sample.laidOut_coat _ _, htranscript ⟨{}, {}⟩ rfl⟩

end Loadout.Entry
