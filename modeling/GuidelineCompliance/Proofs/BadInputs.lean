import GuidelineCompliance.Proofs.Disapplication

/-! Bad inputs. A plan line that is refused, a reported violation of a guideline that is not in the
catalog and a file that cannot be read come to one fault each and to nothing else. The same run
without them ends with the same guidelines and the same comments, and only their faults are
missing. -/

namespace GuidelineCompliance

section Lists

variable {α β : Type} {bad? : α → Option β} {f : α → List β}

theorem flatMap_filter_isNone {γ : Type} {g : α → List γ} (h : ∀ x b, bad? x = some b → g x = [])
    (xs : List α) : (xs.filter fun x => (bad? x).isNone).flatMap g = xs.flatMap g := by
  induction xs with
  | nil => rfl
  | cons x xs ih =>
    cases hx : bad? x with
    | none => rw [List.filter_cons_of_pos (by simp [hx]), List.flatMap_cons, List.flatMap_cons, ih]
    | some b =>
      rw [List.filter_cons_of_neg (by simp [hx]), List.flatMap_cons, h x b hx, List.nil_append, ih]

theorem flatMap_perm_filter_isNone (h : ∀ x b, bad? x = some b → f x = [b]) (xs : List α) :
    (xs.flatMap f).Perm ((xs.filter fun x => (bad? x).isNone).flatMap f ++ xs.filterMap bad?) := by
  induction xs with
  | nil => exact .refl _
  | cons x xs ih =>
    cases hx : bad? x with
    | none =>
      rw [List.filter_cons_of_pos (by simp [hx]), List.filterMap_cons_none hx, List.flatMap_cons,
        List.flatMap_cons, List.append_assoc]
      exact ih.append_left (f x)
    | some b =>
      rw [List.filter_cons_of_neg (by simp [hx]), List.filterMap_cons_some hx, List.flatMap_cons,
        h x b hx]
      exact (ih.cons b).trans List.perm_middle.symm

end Lists

theorem Catalog.takeAll_congr {c : Catalog} {fs gs : List Finding}
    (h : ∀ g ∈ c.guidelines, evidenceOn g.id fs = evidenceOn g.id gs) :
    c.takeAll fs = c.takeAll gs := by
  ext1
  · rw [guidelines_takeAll, guidelines_takeAll]
    exact List.map_congr_left fun g hg => by rw [h g hg]
  · rw [takeAll, takeAll, index_updateAll, index_updateAll]

inductive Input where
  | planLine (line : String)
  | violation (v : Violation)
  | file (name : String) (sources : Sources)

namespace Assessment

/-- The fault that a bad input comes to. A violation without a guideline is passed over and is not
bad. -/
def inputFault? (a : Assessment) : Input → Option Fault
  | .planLine line =>
    match planLine a.catalog line with
    | .faulty f => some f
    | _ => none
  | .violation v =>
    if v.guideline = "" ∨ a.catalog.contains v.guideline then none
    else some (.unknownWarning a.tool v.guideline v.file)
  | .file name sources =>
    match sources name with
    | .error reason => some (.unreadableSource name reason)
    | .ok _ => none

def inputs (a : Assessment) : Operation → List Input
  | .plan lines => lines.map .planLine
  | .ingest (.warnings lines) => (lines.flatMap a.reader.violations).map .violation
  | .ingest (.sources files sources) => files.map (.file · sources)

/-- An operation without the bad lines of its plan and without the bad files. -/
def sift (a : Assessment) : Operation → Operation
  | .plan lines => .plan (lines.filter fun line => (a.inputFault? (.planLine line)).isNone)
  | .ingest (.warnings lines) => .ingest (.warnings lines)
  | .ingest (.sources files sources) =>
    let good := files.filter fun name => (a.inputFault? (.file name sources)).isNone
    .ingest (.sources good sources)

def siftedReader (a : Assessment) : Reader :=
  { a.reader with
    violations := fun line =>
      (a.reader.violations line).filter fun v => (a.inputFault? (.violation v)).isNone }

section Faults

variable {a : Assessment} {f : Fault}

theorem plan_of_inputFault? {line : String} (h : a.inputFault? (.planLine line) = some f) :
    planChanges a.catalog line = [] ∧ planFaults a.catalog line = [f] := by
  simp only [inputFault?] at h
  split at h
  · rename_i faulty
    cases h
    rw [planChanges, planFaults, faulty]
    exact ⟨rfl, rfl⟩
  · cases h

theorem violationFaults_of_inputFault? {v : Violation} (h : a.inputFault? (.violation v) = some f) :
    a.violationFaults v = [f] ∧
      ∀ g ∈ a.catalog.guidelines, evidenceOn g.id v.findings = [] := by
  simp only [inputFault?] at h
  split at h
  · cases h
  · rename_i bad
    cases h
    rw [violationFaults, if_neg bad]
    refine ⟨rfl, fun g hg => ?_⟩
    have other : v.guideline ≠ g.id := by
      intro same
      apply bad
      rw [same, Catalog.contains, Catalog.get?_eq_some_iff.mpr ⟨hg, rfl⟩]
      exact Or.inr rfl
    rw [Violation.findings, if_neg fun unnamed => bad (Or.inl unnamed)]
    simp [evidenceOn, other]

theorem itemOutcome_of_inputFault? {name : String} {sources : Sources}
    (h : a.inputFault? (.file name sources) = some f) :
    a.itemOutcome (.source name sources) = ⟨[], [f], []⟩ := by
  simp only [inputFault?] at h
  split at h
  · rename_i reason unreadable
    cases h
    simp only [itemOutcome, unreadable]
  · cases h

end Faults

section Stable

variable {a b : Assessment}

theorem inputFault?_congr (tool : b.tool = a.tool)
    (category : ∀ id, (b.catalog.get? id).map Guideline.category =
      (a.catalog.get? id).map Guideline.category) : b.inputFault? = a.inputFault? := by
  have contains (id : String) : b.catalog.contains id = a.catalog.contains id := by
    simpa [Catalog.contains] using congrArg Option.isSome (category id)
  funext x
  cases x with
  | planLine line => simp only [inputFault?, planLine_congr category]
  | violation v => simp only [inputFault?, contains, tool]
  | file name sources => rfl

theorem inputFault?_perform (a : Assessment) (op : Operation) :
    (a.perform op).inputFault? = a.inputFault? := by
  cases op with
  | plan lines =>
    rw [perform, applyPlan_eq]
    exact inputFault?_congr rfl (Catalog.map_category_get?_recategorizeAll _ _)
  | ingest i =>
    rw [perform, ingest_eq_extend]
    exact inputFault?_congr rfl (Catalog.map_category_get?_takeAll _ _)

theorem inputFault?_performAll (a : Assessment) (ops : List Operation) :
    (a.performAll ops).inputFault? = a.inputFault? := by
  induction ops generalizing a with
  | nil => rfl
  | cons op ops ih => rw [performAll, List.foldl_cons, ← performAll, ih, inputFault?_perform]

theorem reader_perform (a : Assessment) (op : Operation) : (a.perform op).reader = a.reader := by
  cases op with
  | plan lines => exact reader_applyPlan a lines
  | ingest i => rw [perform, ingest_eq_extend, extend]

theorem sift_perform (a : Assessment) (op : Operation) : (a.perform op).sift = a.sift := by
  funext next
  simp only [sift, inputFault?_perform]

theorem inputs_perform (a : Assessment) (op : Operation) : (a.perform op).inputs = a.inputs := by
  funext next
  simp only [inputs, reader_perform]

theorem siftedReader_perform (a : Assessment) (op : Operation) :
    (a.perform op).siftedReader = a.siftedReader := by
  simp only [siftedReader, inputFault?_perform, reader_perform]

end Stable

/-- How the run without the bad inputs stands to the run with them. -/
structure Sifted (full sifted : Assessment) (bad : List Fault) : Prop where
  state : ∃ code faults, sifted = { full with reader := full.siftedReader, code, faults }
  faults : full.faults.Perm (sifted.faults ++ bad)

namespace Sifted

variable {a b : Assessment} {bad more : List Fault}

theorem perm_append {before fs before' gs : List Fault} (h : before.Perm (before' ++ bad))
    (new : fs.Perm (gs ++ more)) : (before ++ fs).Perm (before' ++ gs ++ (bad ++ more)) :=
  calc
    (before ++ fs).Perm (before' ++ bad ++ (gs ++ more)) := h.append new
    _ = before' ++ (bad ++ gs ++ more) := by simp
    (before' ++ (bad ++ gs ++ more)).Perm (before' ++ (gs ++ bad ++ more)) :=
      (List.perm_append_comm.append_right more).append_left before'
    _ = before' ++ gs ++ (bad ++ more) := by simp

theorem applyChanges (h : Sifted a b bad) (xs : List (String × Category)) {fs gs : List Fault}
    (reader : (a.applyChanges xs fs).siftedReader = a.siftedReader) (new : fs.Perm (gs ++ more)) :
    Sifted (a.applyChanges xs fs) (b.applyChanges xs gs) (bad ++ more) := by
  obtain ⟨⟨code, faults, rfl⟩, before⟩ := h
  refine ⟨⟨code.addAll gs, faults ++ gs, ?_⟩, perm_append before new⟩
  rw [reader]
  rfl

theorem extend (h : Sifted a b bad) {o o' : Outcome}
    (reader : (a.extend o).siftedReader = a.siftedReader)
    (findings : a.catalog.takeAll o'.findings = a.catalog.takeAll o.findings)
    (comments : o'.comments = o.comments) (new : o.faults.Perm (o'.faults ++ more)) :
    Sifted (a.extend o) (b.extend o') (bad ++ more) := by
  obtain ⟨⟨code, faults, rfl⟩, before⟩ := h
  refine ⟨⟨code.addAll o'.faults, faults ++ o'.faults, ?_⟩, perm_append before new⟩
  rw [reader]
  simp only [Assessment.extend, findings, comments]

theorem plan (h : Sifted a b bad) (lines : List String) :
    Sifted (a.perform (.plan lines)) (b.perform (a.sift (.plan lines)))
      (bad ++ (a.inputs (.plan lines)).filterMap a.inputFault?) := by
  have reader := siftedReader_perform a (.plan lines)
  have catalog : b.catalog = a.catalog := by
    obtain ⟨code, faults, rfl⟩ := h.state
    rfl
  simp only [perform, sift, applyPlan_eq, catalog] at reader ⊢
  rw [flatMap_filter_isNone fun _ _ bad => (plan_of_inputFault? bad).1]
  refine h.applyChanges _ reader ?_
  rw [inputs, List.filterMap_map]
  exact flatMap_perm_filter_isNone (fun _ _ bad => (plan_of_inputFault? bad).2) lines

theorem warnings (h : Sifted a b bad) (lines : List String) :
    Sifted (a.perform (.ingest (.warnings lines))) (b.perform (a.sift (.ingest (.warnings lines))))
      (bad ++ (a.inputs (.ingest (.warnings lines))).filterMap a.inputFault?) := by
  have reader := siftedReader_perform a (.ingest (.warnings lines))
  simp only [perform, sift, ingest_eq_extend] at reader ⊢
  have violations : lines.flatMap b.reader.violations =
      (lines.flatMap a.reader.violations).filter fun v =>
        (a.inputFault? (.violation v)).isNone := by
    obtain ⟨code, faults, rfl⟩ := h.state
    rw [List.filter_flatMap]
    rfl
  have checked : b.violationFaults = a.violationFaults := by
    obtain ⟨code, faults, rfl⟩ := h.state
    rfl
  simp only [outcome_warnings, violations, checked] at reader ⊢
  refine h.extend reader ?_ rfl ?_
  · refine Catalog.takeAll_congr fun g hg => ?_
    rw [evidenceOn_flatMap, evidenceOn_flatMap]
    exact flatMap_filter_isNone (fun _ _ bad => (violationFaults_of_inputFault? bad).2 g hg) _
  · rw [inputs, List.filterMap_map]
    exact flatMap_perm_filter_isNone (fun _ _ bad => (violationFaults_of_inputFault? bad).1) _

theorem sources (h : Sifted a b bad) (files : List String) (sources : Sources) :
    Sifted (a.perform (.ingest (.sources files sources)))
      (b.perform (a.sift (.ingest (.sources files sources))))
      (bad ++ (a.inputs (.ingest (.sources files sources))).filterMap a.inputFault?) := by
  have reader := siftedReader_perform a (.ingest (.sources files sources))
  simp only [perform, sift, ingest_eq_extend] at reader ⊢
  have same (name : String) :
      b.itemOutcome (.source name sources) = a.itemOutcome (.source name sources) := by
    obtain ⟨code, faults, rfl⟩ := h.state
    simp only [itemOutcome]
    cases sources name <;> rfl
  refine h.extend reader ?_ ?_ ?_
  all_goals simp only [outcome, Outcome.join, Ingestion.items, List.flatMap_singleton,
    List.flatMap_map, same]
  · rw [flatMap_filter_isNone fun _ _ bad => by rw [itemOutcome_of_inputFault? bad]]
  · rw [flatMap_filter_isNone fun _ _ bad => by rw [itemOutcome_of_inputFault? bad]]
  · rw [inputs, List.filterMap_map]
    exact flatMap_perm_filter_isNone
      (fun _ _ bad => by rw [itemOutcome_of_inputFault? bad]) files

theorem perform (h : Sifted a b bad) (op : Operation) :
    Sifted (a.perform op) (b.perform (a.sift op))
      (bad ++ (a.inputs op).filterMap a.inputFault?) := by
  match op with
  | .plan lines => exact h.plan lines
  | .ingest (.warnings lines) => exact h.warnings lines
  | .ingest (.sources files read) => exact h.sources files read

theorem performAll (h : Sifted a b bad) (ops : List Operation) :
    Sifted (a.performAll ops) (b.performAll (ops.map a.sift))
      (bad ++ (ops.flatMap a.inputs).filterMap a.inputFault?) := by
  induction ops generalizing a b bad with
  | nil => simpa [Assessment.performAll] using h
  | cons op ops ih =>
    -- What is bad later on is bad from the start, so each operation can be sifted in advance.
    have rest := ih (h.perform op)
    rw [sift_perform, inputs_perform, inputFault?_perform] at rest
    rw [List.flatMap_cons, List.filterMap_append, ← List.append_assoc]
    exact rest

end Sifted

/-- Leaving out what is bad makes no difference to the guidelines and the comments, and each thing
that is left out accounts for one fault. What is bad is known before the run. -/
theorem performAll_sift (a : Assessment) (ops : List Operation) :
    let full := a.performAll ops
    let sifted := { a with reader := a.siftedReader }.performAll (ops.map a.sift)
    (∀ before, (a.performAll before).inputFault? = a.inputFault?) ∧
      full.catalog = sifted.catalog ∧ full.comments = sifted.comments ∧
      full.faults.Perm (sifted.faults ++ (ops.flatMap a.inputs).filterMap a.inputFault?) := by
  intro full sifted
  have start : Sifted a { a with reader := a.siftedReader } [] := ⟨⟨a.code, a.faults, rfl⟩, by simp⟩
  have run : Sifted full sifted ((ops.flatMap a.inputs).filterMap a.inputFault?) :=
    start.performAll ops
  obtain ⟨code, faults, state⟩ := run.state
  exact ⟨inputFault?_performAll a, by rw [state], by rw [state], run.faults⟩

end Assessment

end GuidelineCompliance
