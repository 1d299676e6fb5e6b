import Loadout.Proofs.Tracing

/-!
# What a run adds to the records

Whatever is written to a journal adds to its records and takes none away, `Journal.Adds`.  So the
records of one severity grow by what is written at this severity, and stay as they are when
something else is written or the caller is asked.  `Recorded` says what they are at some point of a
run, together with what decides whether further records are kept.
-/

namespace Loadout

variable {τ α β : Type} {severity other : Severity}

namespace Journal

/-- The records of a severity. -/
def recordsAt (severity : Severity) (j : Journal) : List Record :=
  j.records.filter (·.severity = severity)

/-- Writing that adds records of a severity, if any, and leaves alone what decides whether records
are kept. -/
structure Adds (severity : Severity) (f : Journal → Journal) : Prop where
  disabled : ∀ j, (f j).disabled = j.disabled
  channel : ∀ j, (f j).channel = j.channel
  records : ∀ j, ∃ added, (f j).records = j.records ++ added ∧ ∀ r ∈ added, r.severity = severity

namespace Adds

variable {f g : Journal → Journal}

theorem nothing (hdisabled : ∀ j, (f j).disabled = j.disabled)
    (hchannel : ∀ j, (f j).channel = j.channel) (hrecords : ∀ j, (f j).records = j.records) :
    Adds severity f :=
  ⟨hdisabled, hchannel, fun j ↦ ⟨[], by rw [hrecords, List.append_nil], by simp⟩⟩

theorem comp (hg : Adds severity g) (hf : Adds severity f) : Adds severity fun j ↦ g (f j) where
  disabled j := (hg.disabled _).trans (hf.disabled j)
  channel j := (hg.channel _).trans (hf.channel j)
  records j := by
    obtain ⟨first, hfirst, hfirst_at⟩ := hf.records j
    obtain ⟨second, hsecond, hsecond_at⟩ := hg.records (f j)
    refine ⟨first ++ second, by rw [hsecond, hfirst, List.append_assoc], fun r hr ↦ ?_⟩
    rcases List.mem_append.mp hr with hr | hr
    · exact hfirst_at r hr
    · exact hsecond_at r hr

theorem emit (severity : Severity) (message : String) :
    Adds severity (.emit severity message) := by
  have hcases : ∀ j : Journal, j.emit severity message = j ∨
      j.emit severity message = { j with records := j.records ++ [⟨severity, message⟩] } := by
    intro j
    rw [Journal.emit]
    split
    · exact .inr rfl
    · exact .inl rfl
  constructor <;> intro j <;> rcases hcases j with hj | hj <;> rw [hj]
  · rfl
  · exact ⟨[], by simp, by simp⟩
  · exact ⟨[⟨severity, message⟩], rfl, by simp⟩

theorem append (fragment : Fragment) : Adds severity (.append fragment) :=
  nothing (fun _ ↦ rfl) (fun _ ↦ rfl) fun _ ↦ rfl

theorem unlessDisabled (h : Adds severity f) : Adds severity (.unlessDisabled f) := by
  have hcases : ∀ j, Journal.unlessDisabled f j = j ∨ Journal.unlessDisabled f j = f j := by
    intro j
    rw [Journal.unlessDisabled]
    split
    · exact .inl rfl
    · exact .inr rfl
  constructor <;> intro j <;> rcases hcases j with hj | hj <;> rw [hj]
  · exact h.disabled j
  · exact h.channel j
  · exact ⟨[], by simp, by simp⟩
  · exact h.records j

theorem note (severity : Severity) (message : String) : Adds severity (.note severity message) :=
  ((append _).comp (emit severity message)).unlessDisabled

theorem openSection (title : String) : Adds .info (.openSection title) := by
  have htranscript : Adds .info fun j : Journal ↦
      { j with transcript := j.transcript.openSection title } :=
    nothing (fun _ ↦ rfl) (fun _ ↦ rfl) fun _ ↦ rfl
  exact (htranscript.comp (emit .info _)).unlessDisabled

theorem closeSection : Adds severity .closeSection :=
  unlessDisabled (nothing (fun _ ↦ rfl) (fun _ ↦ rfl) fun _ ↦ rfl)

theorem result (name value : String) : Adds .info (.result name value) :=
  ((append _).comp (emit .info _)).unlessDisabled

theorem matrix (title : String) (names : List String) (cells : List (List Bool)) :
    Adds .info (.matrix title names cells) := by
  have htitle : Adds .info fun j : Journal ↦
      if title.isEmpty then j else j.emit .info (titleLine title) := by
    split
    · exact nothing (fun _ ↦ rfl) (fun _ ↦ rfl) fun _ ↦ rfl
    · exact emit .info _
  exact ((append _).comp ((emit .info _).comp htitle)).unlessDisabled

theorem admits_eq (h : Adds severity f) (j : Journal) : (f j).admits other = j.admits other := by
  rw [admits, admits, h.channel]

theorem records_subset (h : Adds severity f) (j : Journal) : j.records ⊆ (f j).records := by
  obtain ⟨added, hadded, -⟩ := h.records j
  rw [hadded]
  exact List.subset_append_left _ _

theorem recordsAt_eq (h : Adds other f) (hne : other ≠ severity) (j : Journal) :
    (f j).recordsAt severity = j.recordsAt severity := by
  obtain ⟨added, hadded, hother⟩ := h.records j
  have hnone : added.filter (·.severity = severity) = [] := by
    refine List.filter_eq_nil_iff.mpr fun r hr ↦ ?_
    rw [hother r hr]
    simpa using hne
  rw [recordsAt, hadded, List.filter_append, hnone, List.append_nil, recordsAt]

end Adds

theorem recordsAt_emit {j : Journal} (h : j.admits severity = true) (message : String) :
    (j.emit severity message).recordsAt severity =
      j.recordsAt severity ++ [⟨severity, message⟩] := by
  simp [emit, h, recordsAt]

end Journal

/-! ## Runs -/

open Call

theorem Run.preserves_asking {property : Journal → Prop} (call : Call τ α) :
    Preserves (property ∘ World.journal) (Run.ask call) :=
  .zoom_apart call fun _ _ hw ↦ hw

/-- A property of journals that no writing undoes. -/
def Lasting (property : Journal → Prop) : Prop :=
  ∀ severity f, Journal.Adds severity f → ∀ j, property j → property (f j)

theorem lasting_admits (severity : Severity) : Lasting (·.admits severity = true) :=
  fun _ _ hf j hj ↦ (hf.admits_eq j).trans hj

theorem lasting_mem (r : Record) : Lasting (r ∈ ·.records) :=
  fun _ _ hf j hj ↦ hf.records_subset j hj

namespace Lasting

variable {property property' : Journal → Prop}

theorem and (h : Lasting property) (h' : Lasting property') :
    Lasting fun j ↦ property j ∧ property' j :=
  fun severity f hf j hj ↦ ⟨h severity f hf j hj.1, h' severity f hf j hj.2⟩

theorem write (h : Lasting property) {f : Journal → Journal} (hf : Journal.Adds severity f) :
    Preserves (property ∘ World.journal) (Run.write f : Run τ Unit) :=
  fun w hw ↦ h severity f hf w.journal hw

end Lasting

/-- The records of a severity that is admitted, in a journal that is disabled or in use. -/
structure Recorded (severity : Severity) (disabled : Bool) (records : List Record)
    (w : World τ) : Prop where
  disabled : w.journal.disabled = disabled
  admits : w.journal.admits severity = true
  recordsAt : w.journal.recordsAt severity = records

namespace Recorded

variable {disabled : Bool} {records : List Record} {fails : Failure → World τ → Prop}

theorem ask (call : Call τ α) : Preserves (Recorded severity disabled records) (Run.ask call) :=
  .zoom_apart call fun _ _ h ↦ ⟨h.disabled, h.admits, h.recordsAt⟩

/-- A call that never fails answers what it is known to answer. -/
theorem ask_total {call : Call τ α} {post : α → Prop} (h : Ends call post fun _ ↦ False) :
    Triple (Recorded severity disabled records) (Run.ask call)
      (fun a w ↦ post a ∧ Recorded severity disabled records w) fails :=
  ((Run.ends_ask h).and_triple (ask call)).imp (fun _ hw ↦ hw) (fun _ _ ha ↦ ha)
    fun _ _ he ↦ he.1.elim

theorem write {f : Journal → Journal} (hf : Journal.Adds other f) (hne : other ≠ severity) :
    Triple (Recorded severity disabled records) (Run.write f : Run τ Unit)
      (fun _ ↦ Recorded severity disabled records) fails :=
  fun w h ↦ ⟨(hf.disabled w.journal).trans h.disabled, (hf.admits_eq w.journal).trans h.admits,
    (hf.recordsAt_eq hne w.journal).trans h.recordsAt⟩

theorem ofExcept_ok (a : α) :
    Triple (Recorded severity disabled records) (Run.ofExcept (.ok a) : Run τ α)
      (fun b w ↦ b = a ∧ Recorded severity disabled records w) fails :=
  fun _ hw ↦ ⟨rfl, hw⟩

/-- What is sent to the records directly is kept, whether or not the journal is disabled. -/
theorem emit (message : String) :
    Triple (Recorded severity disabled records)
      (Run.write (.emit severity message) : Run τ Unit)
      (fun _ ↦ Recorded severity disabled (records ++ [⟨severity, message⟩])) fails := by
  rintro w ⟨hdisabled, hadmits, hrecords⟩
  have hadds := Journal.Adds.emit severity message
  refine ⟨(hadds.disabled _).trans hdisabled, (hadds.admits_eq _).trans hadmits, ?_⟩
  rw [← hrecords]
  exact Journal.recordsAt_emit hadmits message

/-- A note is kept if the journal is in use. -/
theorem note (message : String) :
    Triple (Recorded severity false records) (Run.write (.note severity message) : Run τ Unit)
      (fun _ ↦ Recorded severity false (records ++ [⟨severity, message⟩])) fails := by
  intro w h
  have hnote : w.journal.note severity message =
      (w.journal.emit severity message).append (.note severity message) := by
    rw [Journal.note, Journal.unlessDisabled, h.disabled]
    rfl
  have hemit : Triple (Recorded severity false records)
      (Run.write (.emit severity message) : Run τ Unit)
      (fun _ ↦ Recorded severity false (records ++ [⟨severity, message⟩])) fails := emit message
  obtain ⟨hdisabled, hadmits, hrecords⟩ := hemit w h
  change Recorded _ _ _ { w with journal := w.journal.note severity message }
  rw [hnote]
  exact ⟨hdisabled, hadmits, hrecords⟩

/-- What is done only if the journal is in use matters only then. -/
theorem journalled {act : Run τ Unit}
    (h : disabled = false → Triple (Recorded severity disabled records) act
      (fun _ ↦ Recorded severity disabled records) fails) :
    Triple (Recorded severity disabled records) (Run.journalled act)
      (fun _ ↦ Recorded severity disabled records) fails := by
  intro w hw
  rw [Run.journalled_apply, hw.disabled]
  cases disabled with
  | true => exact hw
  | false => exact h rfl w hw

/-- Each of several steps adds one record. -/
theorem forM {f : β → Run τ Unit} {added : β → Record} {xs : List β}
    (h : ∀ x ∈ xs, ∀ records, Triple (Recorded severity disabled records) (f x)
      (fun _ ↦ Recorded severity disabled (records ++ [added x])) fails) :
    Triple (Recorded severity disabled records) (xs.forM f)
      (fun _ ↦ Recorded severity disabled (records ++ xs.map added)) fails := by
  induction xs generalizing records with
  | nil =>
    rw [List.map_nil, List.append_nil]
    exact .pure fun _ hw ↦ hw
  | cons x xs ih =>
    rw [List.map_cons, List.append_cons]
    change Triple _ (f x >>= fun _ ↦ xs.forM f) _ _
    exact (h x List.mem_cons_self records).bind fun _ ↦
      ih fun y hy ↦ h y (List.mem_cons_of_mem _ hy)

/-- Each of several steps adds records of its own. -/
theorem mapM {f : β → Run τ α} {added : β → List Record} {xs : List β}
    (h : ∀ x ∈ xs, ∀ records, Triple (Recorded severity disabled records) (f x)
      (fun _ ↦ Recorded severity disabled (records ++ added x)) fails) :
    Triple (Recorded severity disabled records) (xs.mapM f)
      (fun _ ↦ Recorded severity disabled (records ++ xs.flatMap added)) fails := by
  induction xs generalizing records with
  | nil =>
    rw [List.flatMap_nil, List.append_nil]
    exact .pure fun _ hw ↦ hw
  | cons x xs ih =>
    rw [List.mapM_cons, List.flatMap_cons, ← List.append_assoc]
    refine (h x List.mem_cons_self records).bind fun a ↦ ?_
    refine (ih fun y hy ↦ h y (List.mem_cons_of_mem _ hy)).bind fun as ↦ ?_
    exact .pure fun _ hw ↦ hw

end Recorded

end Loadout
