import GuidelineCompliance.Assessment
import GuidelineCompliance.Proofs.CatalogUpdate
import GuidelineCompliance.Proofs.Evidence

/-! Outcomes: what a step of a run adds to an assessment. An outcome is evidence on guidelines, a
list of faults and a list of comments, and a run adds the joined outcomes of its steps. -/

namespace GuidelineCompliance

structure Finding where
  guideline : String
  evidence : Evidence
  deriving DecidableEq, Repr

def evidenceOn (id : String) (fs : List Finding) : List Evidence :=
  (fs.filter (·.guideline = id)).map Finding.evidence

theorem mem_evidenceOn {id : String} {fs : List Finding} {e : Evidence} :
    e ∈ evidenceOn id fs ↔ ⟨id, e⟩ ∈ fs := by
  constructor
  · intro h
    obtain ⟨f, hf, rfl⟩ := List.mem_map.mp h
    obtain ⟨hmem, hid⟩ := List.mem_filter.mp hf
    rw [← of_decide_eq_true hid]
    exact hmem
  · intro h
    exact List.mem_map.mpr ⟨_, List.mem_filter.mpr ⟨h, decide_eq_true rfl⟩, rfl⟩

@[simp] theorem evidenceOn_append (id : String) (fs gs : List Finding) :
    evidenceOn id (fs ++ gs) = evidenceOn id fs ++ evidenceOn id gs := by
  simp [evidenceOn]

@[simp] theorem evidenceOn_flatMap {α : Type} (id : String) (xs : List α) (f : α → List Finding) :
    evidenceOn id (xs.flatMap f) = xs.flatMap fun x => evidenceOn id (f x) := by
  simp [evidenceOn, List.filter_flatMap, List.map_flatMap]

@[simp] theorem Guideline.activeCategory_update_takeAll (g : Guideline) (es : List Evidence) :
    (g.update (·.takeAll es)).activeCategory = g.activeCategory := by
  simp [activeCategory, update]

theorem Guideline.isDisapplied_eq_false {g : Guideline} (h : g.activeCategory ≠ .disapplied) :
    g.isDisapplied = false := by
  by_contra hd
  have hr : g.standing.recategorization = some .disapplied := by
    simpa [isDisapplied, Standing.isDisapplied] using hd
  exact h (by simp [activeCategory, hr])

namespace Catalog

def takeAll (c : Catalog) (fs : List Finding) : Catalog :=
  c.updateAll Finding.guideline (fun f s => s.take f.evidence) fs

theorem actOn_findings (id : String) (fs : List Finding) :
    actOn Finding.guideline (fun f s => s.take f.evidence) id fs =
      fun s => s.takeAll (evidenceOn id fs) := by
  funext s
  rw [actOn, Standing.takeAll, evidenceOn, List.foldl_map]

theorem guidelines_takeAll (c : Catalog) (fs : List Finding) :
    (c.takeAll fs).guidelines =
      c.guidelines.map fun g => g.update (·.takeAll (evidenceOn g.id fs)) := by
  simp only [takeAll, guidelines_updateAll, actOn_findings]

theorem get?_takeAll (c : Catalog) (fs : List Finding) (id : String) :
    (c.takeAll fs).get? id =
      (c.get? id).map fun g => g.update (·.takeAll (evidenceOn g.id fs)) := by
  simp only [takeAll, get?_updateAll, actOn_findings]

theorem map_category_get?_takeAll (c : Catalog) (fs : List Finding) (id : String) :
    ((c.takeAll fs).get? id).map Guideline.category = (c.get? id).map Guideline.category := by
  rw [get?_takeAll]
  cases c.get? id <;> rfl

@[simp] theorem takeAll_nil (c : Catalog) : c.takeAll [] = c := rfl

theorem takeAll_singleton (c : Catalog) (f : Finding) :
    c.takeAll [f] = c.update f.guideline (·.take f.evidence) := rfl

theorem takeAll_append (c : Catalog) (fs gs : List Finding) :
    c.takeAll (fs ++ gs) = (c.takeAll fs).takeAll gs := List.foldl_append

end Catalog

namespace FaultCode

def addAll (c : FaultCode) (fs : List Fault) : FaultCode := fs.foldl (fun c f => c.union f.code) c

@[simp] theorem addAll_nil (c : FaultCode) : c.addAll [] = c := rfl

theorem addAll_append (c : FaultCode) (fs gs : List Fault) :
    c.addAll (fs ++ gs) = (c.addAll fs).addAll gs := List.foldl_append

end FaultCode

structure Outcome where
  findings : List Finding := []
  faults : List Fault := []
  comments : List Comment := []

def Outcome.join (os : List Outcome) : Outcome :=
  ⟨os.flatMap findings, os.flatMap faults, os.flatMap comments⟩

theorem Outcome.join_map_of_no_comments {α : Type} (xs : List α) (findings : α → List Finding)
    (faults : α → List Fault) :
    Outcome.join (xs.map fun x => ⟨findings x, faults x, []⟩) =
      ⟨xs.flatMap findings, xs.flatMap faults, []⟩ := by
  simp only [join, List.flatMap_map]
  congr
  exact List.flatMap_eq_nil_iff.mpr fun _ _ => rfl

theorem Outcome.join_flatMap {α : Type} (xs : List α) (f : α → List Outcome) :
    Outcome.join (xs.flatMap f) = .join (xs.map fun x => .join (f x)) := by
  simp [join, List.flatMap_map, List.flatMap_assoc]

namespace Assessment

def extend (a : Assessment) (o : Outcome) : Assessment :=
  { a with
    catalog := a.catalog.takeAll o.findings
    code := a.code.addAll o.faults
    faults := a.faults ++ o.faults
    comments := a.comments ++ o.comments }

@[simp] theorem extend_join_nil (a : Assessment) : a.extend (.join []) = a := by
  simp [extend, Outcome.join]

theorem extend_join_cons (a : Assessment) (o : Outcome) (os : List Outcome) :
    a.extend (.join (o :: os)) = (a.extend o).extend (.join os) := by
  simp [extend, Outcome.join, Catalog.takeAll_append, FaultCode.addAll_append]

theorem record_eq_extend (a : Assessment) (f : Fault) : a.record f = a.extend ⟨[], [f], []⟩ := by
  simp [record, extend, FaultCode.addAll]

theorem recordAll_eq_extend (a : Assessment) (fs : List Fault) :
    a.recordAll fs = a.extend ⟨[], fs, []⟩ := by
  induction fs generalizing a with
  | nil => simp [recordAll, extend]
  | cons f fs ih =>
    rw [recordAll, List.foldl_cons, ← recordAll, ih]
    simp [record, extend, FaultCode.addAll]

/-- Steps whose outcomes do not depend on what other steps add come to the join of their
outcomes. -/
theorem foldl_eq_extend {α : Type} {step : Assessment → α → Assessment}
    {outcome : Assessment → α → Outcome} (each : ∀ a x, step a x = a.extend (outcome a x))
    (stable : ∀ a o, outcome (a.extend o) = outcome a) (a : Assessment) (xs : List α) :
    xs.foldl step a = a.extend (.join (xs.map (outcome a))) := by
  induction xs generalizing a with
  | nil => simp
  | cons x xs ih =>
    rw [List.foldl_cons, each, ih, stable, List.map_cons, extend_join_cons]

end Assessment

end GuidelineCompliance
