import GuidelineCompliance.Proofs.AuditMessages
import GuidelineCompliance.Proofs.FaultHistory
import GuidelineCompliance.Proofs.Protection
import GuidelineCompliance.Proofs.Verdict

/-! The audit log beside the verdict. An error in the log is a suppression without a tag, of any
guideline that is neither advisory nor disapplied. The verdict is not compliant after one: the
guideline is binding, or it is not in the catalog and the suppression was a fault. A guideline of
the catalog that has no category is the one exception. -/

namespace GuidelineCompliance

namespace AuditEntry

theorem violationSeverity_eq_error_iff {c : Category} :
    violationSeverity c = .error ↔ c ≠ .advisory := by
  cases c <;> decide

theorem error_ne_nonMisraFinding (tool : String) (ids : List String) :
    Severity.error ≠ (nonMisraFinding tool ids).1 := by
  simp only [nonMisraFinding]
  split <;> simp

theorem finding?_eq_error_iff {s : Suppression} {c : Category} {m : String} :
    finding? s c = some (.error, m) ↔
      s.evidence? = some .violation ∧ c ≠ .advisory ∧ c ≠ .disapplied ∧
        violationMessage s.guideline c = m := by
  rw [Suppression.evidence?_eq_violation_iff]
  cases hf : s.mark.isFalsePositive with
  | true => simp [finding?, hf]
  | false =>
    cases hd : s.mark.isDeviation with
    | true => simp [finding?, hf, hd]
    | false =>
      by_cases hc : c = .disapplied
      · simp [finding?, hf, hd, hc]
      · simp [finding?, hf, hd, hc, violationSeverity_eq_error_iff, violationMessage, subject]

theorem error_mem_ofComments_iff {tool : String} {catalog : Catalog} {cs : List Comment}
    {file : String} {line : Nat} {m : String} :
    ⟨file, line, .error, m⟩ ∈ ofComments tool catalog cs ↔
      ∃ k ∈ cs, k.file = file ∧ k.line = line ∧ k.isNonMisra = false ∧
        ∃ s ∈ k.suppressions, s.evidence? = some .violation ∧
          catalog.categoryOf s.guideline ≠ .advisory ∧
          catalog.categoryOf s.guideline ≠ .disapplied ∧
          violationMessage s.guideline (catalog.categoryOf s.guideline) = m := by
  rw [ofComments, List.mem_flatMap]
  apply exists_congr
  intro k
  apply and_congr_right
  intro _
  cases hn : k.isNonMisra with
  | true => simp [ofComment, hn, error_ne_nonMisraFinding]
  | false =>
    have category (id : String) : ((catalog.get? id).map Guideline.activeCategory).getD .unknown =
        catalog.categoryOf id := rfl
    simp only [ofComment, hn, category, Bool.false_eq_true, if_false, List.mem_map,
      List.mem_filterMap, true_and]
    constructor
    · rintro ⟨⟨severity, message⟩, ⟨s, hs, found⟩, same⟩
      cases same
      exact ⟨rfl, rfl, s, hs, finding?_eq_error_iff.mp found⟩
    · rintro ⟨rfl, rfl, s, hs, found⟩
      exact ⟨(.error, m), ⟨s, hs, finding?_eq_error_iff.mpr found⟩, rfl⟩

end AuditEntry

namespace Assessment

open AuditEntry

theorem exists_unknownSuppression {a : Assessment} {is : List Ingestion} {k : Comment}
    (hk : k ∈ (a.outcome is).comments) (kept : k.isNonMisra = false) {s : Suppression}
    (hs : s ∈ k.suppressions) (missing : a.catalog.get? s.guideline = none) :
    ∃ file, .unknownSuppression file s.guideline ∈ (a.outcome is).faults := by
  simp only [outcome, Outcome.join, List.mem_flatMap, List.mem_map,
    exists_exists_and_eq_and] at hk ⊢
  obtain ⟨x, hx, hk⟩ := hk
  cases x with
  | line text => cases hk
  | source file sources =>
    refine ⟨file, .source file sources, hx, ?_⟩
    simp only [itemOutcome] at hk ⊢
    cases read : sources file with
    | error reason =>
      rw [read] at hk
      cases hk
    | ok source =>
      rw [read] at hk
      refine List.mem_append_right _ (List.mem_flatMap.mpr ⟨k, hk, ?_⟩)
      rw [commentFaults, kept]
      refine List.mem_flatMap.mpr ⟨s, hs, ?_⟩
      rw [suppressionFaults, missing]
      exact List.mem_singleton_self _

theorem isCompliant_eq_false_of_mem {a : Assessment} {g : Guideline}
    (hg : g ∈ a.catalog.guidelines) (binding : g.activeCategory.isBinding = true)
    (violated : g.status = .violations) : a.isCompliant = false := by
  have against : g.isCompliant = false := by simp [Guideline.isCompliant, binding, violated]
  have open? : a.catalog.isCompliant = false :=
    List.all_eq_false.mpr ⟨g, hg, by simp [against]⟩
  rw [isCompliant, open?, Bool.and_false]

section Run

variable {a : Assessment} {text : String} (h : a.Begun text) (plan : List String)
  (is : List Ingestion)
include h

theorem isCompliant_eq_false_of_unknownSuppression {k : Comment}
    (hk : k ∈ ((a.applyPlan plan).ingestAll is).comments) (kept : k.isNonMisra = false)
    {s : Suppression} (hs : s ∈ k.suppressions)
    (missing : ((a.applyPlan plan).ingestAll is).catalog.get? s.guideline = none) :
    ((a.applyPlan plan).ingestAll is).isCompliant = false := by
  obtain ⟨setup, begun⟩ := h.setup
  have coded : ((a.applyPlan plan).ingestAll is).Coded :=
    (reaches_run a plan is).coded (coded_of_begin begun)
  rw [comments_ingestAll, comments_applyPlan, h.comments_eq, List.nil_append] at hk
  rw [ingestAll_eq_extend, extend, Catalog.get?_takeAll, Option.map_eq_none_iff] at missing
  obtain ⟨file, fault⟩ := exists_unknownSuppression hk kept hs missing
  apply coded.isCompliant_eq_false
  rw [ingestAll_eq_extend, extend]
  exact List.append_ne_nil_of_right_ne_nil _ (List.ne_nil_of_mem fault)

theorem category_eq_unknown_of_activeCategory {g : Guideline}
    (hg : g ∈ ((a.applyPlan plan).ingestAll is).catalog.guidelines)
    (unknown : g.activeCategory = .unknown) :
    g.category = .unknown ∧ g.standing.recategorization = none :=
  (reaches_run a plan is).category_eq_unknown (fun x hx => by rw [h.standing_eq hx]) hg unknown

/-- An error in the log rules out a compliant verdict, unless it is on a guideline of the catalog
that has no category. -/
theorem isCompliant_eq_false_of_error {e : AuditEntry}
    (listed : e ∈ ((a.applyPlan plan).ingestAll is).auditEntries) (severe : e.severity = .error)
    (known : ∀ g ∈ ((a.applyPlan plan).ingestAll is).catalog.guidelines,
      g.category = .unknown → g.standing.recategorization = none →
        e.message ≠ violationMessage g.id .unknown) :
    ((a.applyPlan plan).ingestAll is).isCompliant = false := by
  obtain ⟨file, line, severity, message⟩ := e
  cases severe
  obtain ⟨k, hk, -, -, kept, s, hs, violation, notAdvisory, applied, told⟩ :=
    error_mem_ofComments_iff.mp listed
  -- The log reads a missing id as one without a category, and the verdict as a fault.
  cases found : ((a.applyPlan plan).ingestAll is).catalog.get? s.guideline with
  | none => exact isCompliant_eq_false_of_unknownSuppression h plan is hk kept hs found
  | some g =>
    obtain ⟨hg, same⟩ := Catalog.get?_eq_some_iff.mp found
    rw [← same, Catalog.categoryOf_id hg] at notAdvisory applied told
    have categorized : g.activeCategory ≠ .unknown := fun unknown => by
      obtain ⟨original, given⟩ := category_eq_unknown_of_activeCategory h plan is hg unknown
      exact known g hg original given (by rw [← told, unknown])
    have binding : g.activeCategory.isBinding = true := by
      cases hc : g.activeCategory <;> simp_all [Category.isBinding]
    refine isCompliant_eq_false_of_mem hg binding ?_
    have unmarked := Suppression.evidence?_eq_violation_iff.mp violation
    rw [status_eq_violations_iff h plan is hg binding]
    exact Or.inr ⟨k, hk, kept, s, hs, same.symm, unmarked⟩

end Run

theorem isCompliant_eq_false_of_error_beside_unknown :
    let text := "/*** Rule 1.1 (adv) ***//*** Rule 1.2 (doc) ***/"
    let source := "// cppcheck-suppress misra-c2012-1.2\n// cppcheck-suppress misra-c2012-1.1"
    let run := ((cppcheckOver text).applyPlan ["Rule 1.1, required"]).ingestAll
      [.sources ["a.c"] fun _ => .ok source]
    (cppcheckOver text).Begun text ∧
      run.auditEntries = [⟨"a.c", 1, .error, violationMessage "Rule 1.2" .unknown⟩,
        ⟨"a.c", 2, .error, violationMessage "Rule 1.1" .required⟩] ∧
      run.isCompliant = false := by
  intro text source run
  have begun := begun_cppcheckOver text
  have entries : run.auditEntries = [⟨"a.c", 1, .error, violationMessage "Rule 1.2" .unknown⟩,
      ⟨"a.c", 2, .error, violationMessage "Rule 1.1" .required⟩] := by decide +kernel
  have listed : ⟨"a.c", 2, .error, violationMessage "Rule 1.1" .required⟩ ∈ run.auditEntries := by
    rw [entries]
    exact List.mem_cons_of_mem _ List.mem_cons_self
  refine ⟨begun, entries, isCompliant_eq_false_of_error begun _ _ listed rfl ?_⟩
  intro g _ _ _ same
  cases (violationMessage_inj.mp same).2

/-- A suppression of a guideline that has no category is an error in the log and nothing to the
verdict. -/
theorem not_forall_isCompliant_eq_false_of_error :
    ¬ ∀ (a : Assessment) (text : String), a.Begun text →
      ∀ (plan : List String) (is : List Ingestion),
        ∀ e ∈ ((a.applyPlan plan).ingestAll is).auditEntries, e.severity = .error →
          ((a.applyPlan plan).ingestAll is).isCompliant = false := by
  intro ruledOut
  have verdict := ruledOut _ _ (begun_cppcheckOver "/*** Rule 1.1 (doc) ***/") []
    [.sources ["a.c"] fun _ => .ok "// cppcheck-suppress misra-c2012-1.1"]
    ⟨"a.c", 1, .error, violationMessage "Rule 1.1" .unknown⟩ (by decide +kernel) rfl
  exact absurd verdict (by decide +kernel)

end Assessment

end GuidelineCompliance
