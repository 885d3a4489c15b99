import GuidelineCompliance.Proofs.FaultCodes
import GuidelineCompliance.Proofs.Headings
import GuidelineCompliance.Proofs.Ingestion
import GuidelineCompliance.Proofs.Plan

/-! The verdict of a run that applies a plan and then takes in lines and files. It is compliant
exactly when no fault was recorded and nothing is held against a binding guideline, neither by the
analyzer nor by a suppression that no tag explains. -/

namespace GuidelineCompliance

namespace Assessment

/-- Some line reports a violation of the guideline, or some kept comment suppresses it without
calling that a false positive or a deviation. -/
def HeldAgainst (reader : Reader) (is : List Ingestion) (comments : List Comment) (id : String) :
    Prop :=
  (∃ line ∈ is.flatMap Ingestion.lines, ∃ v ∈ reader.violations line, v.guideline = id) ∨
    ∃ c ∈ comments, c.isNonMisra = false ∧ ∃ s ∈ c.suppressions,
      s.guideline = id ∧ s.mark.isFalsePositive = false ∧ s.mark.isDeviation = false

theorem heldAgainst_iff {a : Assessment} {is : List Ingestion} {id : String} (h : id ≠ "") :
    HeldAgainst a.reader is (a.outcome is).comments id ↔
      (evidenceOn id (a.outcome is).findings).any Evidence.isViolation = true := by
  simp only [List.any_eq_true, mem_evidenceOn, mem_findings_outcome]
  constructor
  · rintro (⟨line, hline, v, hv, rfl⟩ | ⟨c, hc, kept, s, hs, hid, unmarked⟩)
    · refine ⟨.warning, Or.inl ⟨line, hline, v, hv, ?_⟩, rfl⟩
      simp [Violation.findings, h]
    · refine ⟨.violation, Or.inr ⟨c, hc, ?_⟩, rfl⟩
      exact Comment.mem_findings_iff.mpr
        ⟨kept, s, hs, hid, Suppression.evidence?_eq_violation_iff.mpr unmarked⟩
  · -- Lines report nothing but warnings, and comments are no warnings.
    rintro ⟨e, ⟨line, hline, v, hv, he⟩ | ⟨c, hc, he⟩, violation⟩
    · refine Or.inl ⟨line, hline, v, hv, ?_⟩
      by_cases hg : v.guideline = ""
      · simp [Violation.findings, hg] at he
      · simp only [Violation.findings, if_neg hg, List.mem_singleton, Finding.mk.injEq] at he
        exact he.1.symm
    · obtain ⟨kept, s, hs, hid, hev⟩ := Comment.mem_findings_iff.mp he
      refine Or.inr ⟨c, hc, kept, s, hs, hid, Suppression.evidence?_eq_violation_iff.mp ?_⟩
      cases e with
      | warning => exact absurd hev s.evidence?_ne_warning
      | violation => exact hev
      | deviation d => cases violation

section Run

variable {a : Assessment} {text : String} (h : a.Begun text) (plan : List String)
  (is : List Ingestion)
include h

theorem status_eq_violations_iff {g : Guideline}
    (hg : g ∈ ((a.applyPlan plan).ingestAll is).catalog.guidelines)
    (binding : g.activeCategory.isBinding = true) :
    g.status = .violations ↔
      HeldAgainst a.reader is ((a.applyPlan plan).ingestAll is).comments g.id := by
  rw [guidelines_ingestAll] at hg
  obtain ⟨planned, hplanned, rfl⟩ := List.mem_map.mp hg
  have unfound := h.status_ne_violations_of_mem_applyPlan hplanned
  have applied : planned.isDisapplied = false := by
    apply Guideline.isDisapplied_eq_false
    intro hd
    simp [hd, Category.isBinding] at binding
  rw [comments_ingestAll, comments_applyPlan, h.comments_eq, List.nil_append,
    ← reader_applyPlan a plan, Guideline.id_update,
    heldAgainst_iff (h.id_ne_empty_of_mem_applyPlan hplanned)]
  exact Standing.status_takeAll_eq_violations_iff applied unfound _

/-- A run is found compliant exactly when it recorded no fault and nothing is held against a
guideline that binds. -/
theorem isCompliant_iff :
    ((a.applyPlan plan).ingestAll is).isCompliant = true ↔
      ((a.applyPlan plan).ingestAll is).faults = [] ∧
        ∀ g ∈ ((a.applyPlan plan).ingestAll is).catalog.guidelines,
          g.activeCategory.isBinding = true →
            ¬ HeldAgainst a.reader is ((a.applyPlan plan).ingestAll is).comments g.id := by
  have coded : a.Coded := by rw [Coded, h.code_eq, h.faults_eq, FaultCode.addAll_nil]
  have emptied : ((a.applyPlan plan).ingestAll is).code.isEmpty = true ↔
      ((a.applyPlan plan).ingestAll is).faults = [] := by
    rw [ingestAll_eq_extend]
    exact ((coded.applyPlan plan).extend _).isEmpty_iff
  rw [isCompliant, Bool.and_eq_true, emptied, Catalog.isCompliant, List.all_eq_true]
  apply and_congr_right
  intro _
  apply forall₂_congr
  intro g hg
  by_cases binding : g.activeCategory.isBinding = true
  · simp [Guideline.isCompliant, binding, ← status_eq_violations_iff h plan is hg binding]
  · simp [Guideline.isCompliant, binding]

end Run

/-- A deviation that is recorded first does not clear a guideline that the analyzer warns of, and
without a warning a suppression that no tag explains is enough. -/
theorem isCompliant_eq_false_of_evidence :
    let a := (cppcheckOver "/*** Rule 1.1 (adv) ***/").applyPlan ["Rule 1.1, required"]
    (cppcheckOver "/*** Rule 1.1 (adv) ***/").Begun "/*** Rule 1.1 (adv) ***/" ∧
      (a.ingestAll [.sources ["a.c"] fun _ =>
          .ok "// cppcheck-suppress misra-c2012-1.1 DEVIATION(D1)",
        .warnings ["[a.c:1] shadowed [misra-c2012-1.1]"]]).isCompliant = false ∧
      (a.ingestAll [.sources ["a.c"] fun _ =>
        .ok "// cppcheck-suppress misra-c2012-1.1"]).isCompliant = false := by
  intro a
  have begun := begun_cppcheckOver "/*** Rule 1.1 (adv) ***/"
  refine ⟨begun, Bool.eq_false_iff.mpr fun compliant => ?_,
    Bool.eq_false_iff.mpr fun compliant => ?_⟩
  · have cleared := ((isCompliant_iff begun _ _).mp compliant).2
    refine cleared ⟨"Rule 1.1", .advisory, ⟨some .required, .violations, [⟨some "D1", none⟩]⟩⟩
      (by decide +kernel) (by decide) (Or.inl ?_)
    exact ⟨"[a.c:1] shadowed [misra-c2012-1.1]", by decide, ⟨"a.c", 1, "Rule 1.1"⟩,
      by decide +kernel, rfl⟩
  · have cleared := ((isCompliant_iff begun _ _).mp compliant).2
    refine cleared ⟨"Rule 1.1", .advisory, ⟨some .required, .violations, []⟩⟩
      (by decide +kernel) (by decide) (Or.inr ?_)
    exact ⟨⟨"a.c", 1, false, [{ guideline := "Rule 1.1" }]⟩, by decide +kernel, rfl, _, .head _,
      rfl, rfl, rfl⟩

end Assessment

end GuidelineCompliance
