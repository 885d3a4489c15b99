import GuidelineCompliance.Proofs.Headings
import GuidelineCompliance.Proofs.Ingestion
import GuidelineCompliance.Proofs.Plan
import Mathlib.Data.List.Induction

/-! Disapplied guidelines. Plans and evidence may reach a guideline in any order. Its status says
that it is disapplied exactly when its recategorization does, unless a plan took the
disapplication back and no evidence on the guideline has come in since. -/

namespace GuidelineCompliance

/-- What can happen to a guideline in a run. -/
inductive Change where
  | plan (new : Category)
  | evidence (e : Evidence)
  deriving DecidableEq

namespace Change

def plan? : Change → Option Category
  | plan new => some new
  | evidence _ => none

def lastPlan (cs : List Change) : Option Category := (cs.filterMap plan?).getLast?

theorem lastPlan_append_plan (cs : List Change) (new : Category) :
    lastPlan (cs ++ [plan new]) = some new := by
  simp [lastPlan, plan?]

theorem lastPlan_append_evidence (cs : List Change) (e : Evidence) :
    lastPlan (cs ++ [evidence e]) = lastPlan cs := by
  simp [lastPlan, plan?]

/-- A plan disapplied the guideline, plans gave it other categories, and nothing else happened to
it after that. -/
def Abandoned (cs : List Change) : Prop :=
  ∃ before news, cs = before ++ news.map plan ∧ news ≠ [] ∧ .disapplied ∉ news ∧
    lastPlan before = some .disapplied

theorem Abandoned.lastPlan_ne {cs : List Change} (h : Abandoned cs) :
    lastPlan cs ≠ some .disapplied := by
  obtain ⟨before, news, rfl, nonempty, other, -⟩ := h
  obtain rfl | ⟨init, last, rfl⟩ := List.eq_nil_or_concat news
  · exact absurd rfl nonempty
  · rw [List.concat_eq_append, List.map_append, ← List.append_assoc, List.map_singleton,
      lastPlan_append_plan]
    intro same
    cases same
    exact other (by simp)

theorem not_abandoned_nil : ¬ Abandoned [] := by
  rintro ⟨before, news, split, nonempty, -, -⟩
  simp_all

theorem not_abandoned_append_evidence (cs : List Change) (e : Evidence) :
    ¬ Abandoned (cs ++ [evidence e]) := by
  rintro ⟨before, news, split, nonempty, -, -⟩
  obtain rfl | ⟨init, new, rfl⟩ := List.eq_nil_or_concat news
  · exact nonempty rfl
  · rw [List.concat_eq_append, List.map_append, ← List.append_assoc] at split
    cases (List.append_inj' split rfl).2

theorem abandoned_append_plan_iff (cs : List Change) (new : Category) :
    Abandoned (cs ++ [plan new]) ↔
      new ≠ .disapplied ∧ (lastPlan cs = some .disapplied ∨ Abandoned cs) := by
  constructor
  · rintro ⟨before, news, split, nonempty, other, disapplied⟩
    obtain rfl | ⟨init, last, rfl⟩ := List.eq_nil_or_concat news
    · exact absurd rfl nonempty
    · rw [List.concat_eq_append, List.map_append, ← List.append_assoc] at split
      obtain ⟨rfl, same⟩ := List.append_inj' split rfl
      cases same
      rw [List.concat_eq_append, List.mem_append, not_or] at other
      refine ⟨fun h => other.2 (by simp [h]), ?_⟩
      cases init with
      | nil => exact Or.inl (by simpa using disapplied)
      | cons c init => exact Or.inr ⟨before, c :: init, rfl, by simp, other.1, disapplied⟩
  · rintro ⟨other, disapplied | ⟨before, news, rfl, nonempty, others, disapplied⟩⟩
    · exact ⟨cs, [new], rfl, by simp, by simpa using other.symm, disapplied⟩
    · refine ⟨before, news ++ [new], by simp, by simp, ?_, disapplied⟩
      simpa using ⟨others, other.symm⟩

end Change

namespace Standing

open Change

def change (s : Standing) : Change → Standing
  | .plan new => s.recategorize new
  | .evidence e => s.take e

def changeAll (s : Standing) (cs : List Change) : Standing := cs.foldl change s

theorem changeAll_append (s : Standing) (cs ds : List Change) :
    s.changeAll (cs ++ ds) = (s.changeAll cs).changeAll ds := List.foldl_append

theorem changeAll_plans (s : Standing) (news : List Category) :
    s.changeAll (news.map plan) = s.recategorizeAll news := by
  rw [changeAll, List.foldl_map]
  rfl

theorem changeAll_evidence (s : Standing) (es : List Evidence) :
    s.changeAll (es.map evidence) = s.takeAll es := by
  rw [changeAll, List.foldl_map]
  rfl

theorem recategorization_changeAll (cs : List Change) :
    (changeAll {} cs).recategorization = lastPlan cs := by
  induction cs using List.reverseRecOn with
  | nil => rfl
  | append_singleton cs c ih =>
    rw [changeAll_append]
    cases c with
    | plan new => rw [lastPlan_append_plan]; rfl
    | evidence e => rw [lastPlan_append_evidence, ← ih]; exact recategorization_take _ e

/-- The status stays disapplied when a plan takes the disapplication back, and evidence is what
ends that. -/
theorem status_changeAll_eq_disapplied_iff (cs : List Change) :
    (changeAll {} cs).status = .disapplied ↔
      lastPlan cs = some .disapplied ∨ Abandoned cs := by
  induction cs using List.reverseRecOn with
  | nil => simp [changeAll, lastPlan, not_abandoned_nil]
  | append_singleton cs c ih =>
    rw [changeAll_append]
    cases c with
    | plan new =>
      have step : ((changeAll {} cs).changeAll [.plan new]).status =
          if new = .disapplied then .disapplied else (changeAll {} cs).status := rfl
      rw [step, lastPlan_append_plan, abandoned_append_plan_iff, ← ih]
      by_cases h : new = .disapplied <;> simp [h]
    | evidence e =>
      -- Evidence moves the status only where the plans, not the status, say that it may.
      have step : (changeAll {} cs).changeAll [.evidence e] = (changeAll {} cs).take e := rfl
      rw [step, lastPlan_append_evidence]
      simp only [not_abandoned_append_evidence, or_false]
      by_cases h : lastPlan cs = some .disapplied
      · have disapplied : (changeAll {} cs).isDisapplied = true := by
          simp [isDisapplied, recategorization_changeAll, h]
        have status := ih.mpr (Or.inl h)
        rw [take_of_isDisapplied disapplied]
        split <;> simp [h, status]
      · have applied : (changeAll {} cs).isDisapplied = false := by
          simp [isDisapplied, recategorization_changeAll, h]
        simp [h, status_take_ne_disapplied applied e]

end Standing

inductive Operation where
  | plan (lines : List String)
  | ingest (i : Ingestion)

namespace Assessment

def perform (a : Assessment) : Operation → Assessment
  | .plan lines => a.applyPlan lines
  | .ingest i => a.ingest i

def performAll (a : Assessment) (ops : List Operation) : Assessment := ops.foldl perform a

def changes (a : Assessment) (id : String) : Operation → List Change
  | .plan lines => (changesOf id (lines.flatMap (planChanges a.catalog))).map Change.plan
  | .ingest i => (evidenceOn id (a.outcome [i]).findings).map Change.evidence

def history (a : Assessment) (ops : List Operation) (id : String) : List Change :=
  ops.flatMap (a.changes id)

theorem guidelines_perform (a : Assessment) (op : Operation) :
    (a.perform op).catalog.guidelines =
      a.catalog.guidelines.map fun g => g.update (·.changeAll (a.changes g.id op)) := by
  cases op with
  | plan lines => simp only [perform, guidelines_applyPlan, changes, Standing.changeAll_plans]
  | ingest i =>
    simp only [perform, ingest_eq_extend, extend, Catalog.guidelines_takeAll, changes,
      Standing.changeAll_evidence]

theorem findings_outcome_applyPlan (a : Assessment) (lines : List String) (is : List Ingestion) :
    ((a.applyPlan lines).outcome is).findings = (a.outcome is).findings := by
  have each (x : Item) :
      ((a.applyPlan lines).itemOutcome x).findings = (a.itemOutcome x).findings := by
    rw [applyPlan_eq]
    cases x with
    | line text => rfl
    | source file sources =>
      simp only [itemOutcome]
      cases sources file <;> rfl
  simp only [outcome, Outcome.join, List.flatMap_map, each]

theorem planChanges_extend (a : Assessment) (o : Outcome) :
    planChanges (a.extend o).catalog = planChanges a.catalog := by
  funext line
  rw [planChanges, extend, planLine_congr (Catalog.map_category_get?_takeAll _ _), planChanges]

theorem changes_perform (a : Assessment) (op : Operation) (id : String) :
    (a.perform op).changes id = a.changes id := by
  funext next
  cases op with
  | plan lines =>
    cases next with
    | plan more =>
      simp only [perform, changes, applyPlan_eq, applyChanges, planChanges_recategorizeAll]
    | ingest i => simp only [perform, changes, findings_outcome_applyPlan]
  | ingest j =>
    rw [perform, ingest_eq_extend]
    cases next with
    | plan more => simp only [changes, planChanges_extend]
    | ingest i => simp only [changes, outcome_extend]

theorem guidelines_performAll (a : Assessment) (ops : List Operation) :
    (a.performAll ops).catalog.guidelines =
      a.catalog.guidelines.map fun g => g.update (·.changeAll (a.history ops g.id)) := by
  induction ops generalizing a with
  | nil => exact (List.map_id' _).symm
  | cons op ops ih =>
    -- What later operations do can be told from the state before the first one.
    rw [performAll, List.foldl_cons, ← performAll, ih, guidelines_perform, List.map_map]
    apply List.map_congr_left
    intro g _
    simp only [Function.comp_apply, history, changes_perform,
      List.flatMap_cons, Guideline.update, Standing.changeAll_append]

/-- The status and the recategorization agree on whether a guideline is disapplied, unless its
disapplication was taken back and nothing has been found about it since. -/
theorem disapplied_agree_iff {a : Assessment} {text : String} (h : a.Begun text)
    (ops : List Operation) {g : Guideline} (hg : g ∈ (a.performAll ops).catalog.guidelines) :
    (g.status = .disapplied ↔ g.standing.recategorization = some .disapplied) ↔
      ¬ Change.Abandoned (a.history ops g.id) := by
  rw [guidelines_performAll] at hg
  obtain ⟨begun, hbegun, rfl⟩ := List.mem_map.mp hg
  rw [Guideline.status, Guideline.id_update, Guideline.update, h.standing_eq hbegun,
    Standing.status_changeAll_eq_disapplied_iff, Standing.recategorization_changeAll]
  constructor
  · intro agree abandoned
    exact abandoned.lastPlan_ne (agree.mp (Or.inr abandoned))
  · intro kept
    simp [kept]

/-- A reported violation does not end a disapplication, so taking it back afterwards still leaves
the status behind. -/
theorem not_disapplied_agree_of_warning_between :
    let ops : List Operation :=
      [.plan ["Rule 1.1, disapplied"], .ingest (.warnings ["[a.c:1] shadowed [misra-c2012-1.1]"]),
        .plan ["Rule 1.1, required"]]
    let g : Guideline := ⟨"Rule 1.1", .advisory, ⟨some .required, .disapplied, []⟩⟩
    (cppcheckOver "/*** Rule 1.1 (adv) ***/").Begun "/*** Rule 1.1 (adv) ***/" ∧
      g ∈ ((cppcheckOver "/*** Rule 1.1 (adv) ***/").performAll ops).catalog.guidelines ∧
      ¬ (g.status = .disapplied ↔ g.standing.recategorization = some .disapplied) := by
  intro ops g
  have begun := begun_cppcheckOver "/*** Rule 1.1 (adv) ***/"
  have listed : g ∈
      ((cppcheckOver "/*** Rule 1.1 (adv) ***/").performAll ops).catalog.guidelines := by
    decide +kernel
  have history : (cppcheckOver "/*** Rule 1.1 (adv) ***/").history ops g.id =
      [.plan .disapplied, .evidence .warning] ++ [Category.required].map .plan := by
    decide +kernel
  refine ⟨begun, listed, fun agree => ?_⟩
  exact (disapplied_agree_iff begun ops listed).mp agree
    ⟨_, _, history, by decide, by decide, by decide⟩

theorem not_forall_disapplied_agree :
    ¬ ∀ (a : Assessment) (text : String), a.Begun text → ∀ (ops : List Operation),
      ∀ g ∈ (a.performAll ops).catalog.guidelines,
        g.status = .disapplied ↔ g.standing.recategorization = some .disapplied := by
  intro agree
  have stale := agree _ _ (begun_cppcheckOver "/*** Rule 1.1 (adv) ***/")
    [.plan ["Rule 1.1, disapplied", "Rule 1.1, advisory"]]
    ⟨"Rule 1.1", .advisory, ⟨some .advisory, .disapplied, []⟩⟩ (by decide +kernel)
  exact absurd (stale.mp rfl) (by decide)

end Assessment

end GuidelineCompliance
