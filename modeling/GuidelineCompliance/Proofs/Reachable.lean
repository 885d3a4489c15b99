import GuidelineCompliance.Check
import GuidelineCompliance.Proofs.Ingestion
import GuidelineCompliance.Proofs.PlanLines

/-! The states that a run can come to. A run goes on by plans, by lines and files that it takes in
and by logs that it writes, in any order. Whatever it does, the guidelines keep their ids and
categories, and their recategorizations are only changed to what they admit. -/

namespace GuidelineCompliance

namespace Assessment

inductive Step : Assessment → Assessment → Prop
  | plan (a : Assessment) (lines : List String) : Step a (a.applyPlan lines)
  | ingest (a : Assessment) (i : Ingestion) : Step a (a.ingest i)
  | log (a : Assessment) (sink : Sink) (reason : String) : Step a (a.writeLog sink reason).1
  | logFile (a : Assessment) (p : Path) (tree : FileTree) : Step a ((a.writeLogTo p).run tree).1

inductive Reaches (a : Assessment) : Assessment → Prop
  | start : Reaches a a
  | step {b c : Assessment} (before : Reaches a b) (last : Step b c) : Reaches a c

theorem Reaches.trans {a b c : Assessment} (first : Reaches a b) (later : Reaches b c) :
    Reaches a c := by
  induction later with
  | start => exact first
  | step _ last ih => exact ih.step last

theorem reaches_applyPlan (a : Assessment) (lines : List String) : Reaches a (a.applyPlan lines) :=
  .step .start (.plan a lines)

theorem reaches_ingestAll (a : Assessment) (is : List Ingestion) : Reaches a (a.ingestAll is) := by
  induction is generalizing a with
  | nil => exact .start
  | cons i is ih => exact Reaches.trans (.step .start (.ingest a i)) (ih (a.ingest i))

theorem reaches_run (a : Assessment) (plan : List String) (is : List Ingestion) :
    Reaches a ((a.applyPlan plan).ingestAll is) :=
  (reaches_applyPlan a plan).trans (reaches_ingestAll _ is)

theorem writeLog_eq (a : Assessment) (sink : Sink) (reason : String) :
    (a.writeLog sink reason).1 = a ∨
      (a.writeLog sink reason).1 = a.record (.unwritableLog "<audit log>" reason) := by
  simp only [writeLog]
  split
  · exact Or.inl rfl
  · exact Or.inr rfl

theorem writeLogTo_eq (a : Assessment) (p : Path) (tree : FileTree) :
    ((a.writeLogTo p).run tree).1 = a ∨
      ∃ e : FileFault, ((a.writeLogTo p).run tree).1 = a.record (.unwritableLog p e.message) := by
  simp only [writeLogTo, Bind.bind, FileTask.run_bind]
  split
  · exact Or.inl rfl
  · exact Or.inr ⟨_, rfl⟩

/-- All that a call does: a plan changes recategorizations, and anything else adds an outcome. -/
theorem Step.eq_applyChanges_or_extend {a b : Assessment} (h : Step a b) :
    (∃ xs fs, b = a.applyChanges xs fs) ∨ ∃ o, b = a.extend o := by
  have unchanged : a = a.extend ⟨[], [], []⟩ := by simp [extend]
  cases h with
  | plan lines => exact Or.inl ⟨_, _, applyPlan_eq a lines⟩
  | ingest i => exact Or.inr ⟨_, ingest_eq_extend a i⟩
  | log sink reason =>
    obtain same | failed := writeLog_eq a sink reason
    · exact Or.inr ⟨_, same.trans unchanged⟩
    · exact Or.inr ⟨_, failed.trans (record_eq_extend a _)⟩
  | logFile p tree =>
    obtain same | ⟨e, failed⟩ := writeLogTo_eq a p tree
    · exact Or.inr ⟨_, same.trans unchanged⟩
    · exact Or.inr ⟨_, failed.trans (record_eq_extend a _)⟩

theorem catalog_writeLog (a : Assessment) (sink : Sink) (reason : String) :
    (a.writeLog sink reason).1.catalog = a.catalog := by
  obtain same | failed := writeLog_eq a sink reason
  · rw [same]
  · rw [failed, record]

theorem catalog_writeLogTo (a : Assessment) (p : Path) (tree : FileTree) :
    ((a.writeLogTo p).run tree).1.catalog = a.catalog := by
  obtain same | ⟨e, failed⟩ := writeLogTo_eq a p tree
  · rw [same]
  · rw [failed, record]

end Assessment

/-- A later record of a guideline. Its recategorization is the old one or one that is admitted. -/
structure Guideline.Succeeds (g' g : Guideline) : Prop where
  id : g'.id = g.id
  category : g'.category = g.category
  recategorization : g'.standing.recategorization = g.standing.recategorization ∨
    ∃ new, g'.standing.recategorization = some new ∧ g.admits new = true

namespace Guideline

theorem Succeeds.refl (g : Guideline) : g.Succeeds g := ⟨rfl, rfl, Or.inl rfl⟩

theorem admits_congr {g g' : Guideline} (h : g'.category = g.category) (new : Category) :
    g'.admits new = g.admits new := by
  rw [admits, admits, h]

theorem Succeeds.trans {g g' g'' : Guideline} (second : g''.Succeeds g')
    (first : g'.Succeeds g) : g''.Succeeds g where
  id := second.id.trans first.id
  category := second.category.trans first.category
  recategorization := by
    obtain kept | ⟨new, given, admitted⟩ := second.recategorization
    · rw [kept]
      exact first.recategorization
    · rw [admits_congr first.category] at admitted
      exact Or.inr ⟨new, given, admitted⟩

end Guideline

namespace Assessment

open Guideline

variable {a b : Assessment}

theorem recategorization_applyPlan {g : Guideline} (hg : g ∈ a.catalog.guidelines)
    (lines : List String) :
    (g.standing.recategorizeAll
      (changesOf g.id (lines.flatMap (planChanges a.catalog)))).recategorization =
        ((lines.filter (planSubject · ≠ "")).filterMap g.grant?).getLast?.or
          g.standing.recategorization := by
  rw [Standing.recategorization_recategorizeAll, changesOf_plan hg]

theorem succeeds_of_mem_applyPlan {lines : List String} {g' : Guideline}
    (hg' : g' ∈ (a.applyPlan lines).catalog.guidelines) :
    ∃ g ∈ a.catalog.guidelines, g'.Succeeds g := by
  rw [guidelines_applyPlan] at hg'
  obtain ⟨g, hg, rfl⟩ := List.mem_map.mp hg'
  refine ⟨g, hg, rfl, rfl, ?_⟩
  rw [Guideline.update, recategorization_applyPlan hg]
  cases last : ((lines.filter (planSubject · ≠ "")).filterMap g.grant?).getLast? with
  | none => exact Or.inl rfl
  | some new =>
    obtain ⟨line, -, granted⟩ := List.mem_filterMap.mp (List.mem_of_getLast? last)
    exact Or.inr ⟨new, rfl, admits_of_grant?_eq_some granted⟩

theorem succeeds_of_mem_ingest {i : Ingestion} {g' : Guideline}
    (hg' : g' ∈ (a.ingest i).catalog.guidelines) : ∃ g ∈ a.catalog.guidelines, g'.Succeeds g := by
  rw [ingest_eq_extend, extend, Catalog.guidelines_takeAll] at hg'
  obtain ⟨g, hg, rfl⟩ := List.mem_map.mp hg'
  exact ⟨g, hg, rfl, rfl, Or.inl (Standing.recategorization_takeAll _ _)⟩

theorem Step.succeeds (h : Step a b) {g' : Guideline} (hg' : g' ∈ b.catalog.guidelines) :
    ∃ g ∈ a.catalog.guidelines, g'.Succeeds g := by
  cases h with
  | plan lines => exact succeeds_of_mem_applyPlan hg'
  | ingest i => exact succeeds_of_mem_ingest hg'
  | log sink reason =>
    rw [catalog_writeLog] at hg'
    exact ⟨g', hg', .refl g'⟩
  | logFile p tree =>
    rw [catalog_writeLogTo] at hg'
    exact ⟨g', hg', .refl g'⟩

theorem Reaches.succeeds (h : Reaches a b) {g' : Guideline} (hg' : g' ∈ b.catalog.guidelines) :
    ∃ g ∈ a.catalog.guidelines, g'.Succeeds g := by
  induction h generalizing g' with
  | start => exact ⟨g', hg', .refl g'⟩
  | step before last ih =>
    obtain ⟨between, hbetween, second⟩ := last.succeeds hg'
    obtain ⟨g, hg, first⟩ := ih hbetween
    exact ⟨g, hg, second.trans first⟩

end Assessment

end GuidelineCompliance
