import GuidelineCompliance.Proofs.AuditMessages
import GuidelineCompliance.Proofs.Headings
import GuidelineCompliance.Proofs.Plan

/-! The audit trail of a run that takes in source files only. Its log tells the standing of every
guideline: a message on a violation, a message on a deviation, or neither. -/

namespace GuidelineCompliance

namespace Standing

open Evidence

variable {r : Option Category} (h : r ≠ some .disapplied) (es : List Evidence)
include h

theorem status_conclude_eq_violations_iff :
    (conclude r es).status = .violations ↔ es.any isViolation = true := by
  rw [conclude, if_neg h]
  cases es.any isViolation with
  | true => simp
  | false => cases es.any (·.deviation?.isSome) <;> simp

theorem status_conclude_eq_deviations_iff :
    (conclude r es).status = .deviations ↔
      es.any (·.deviation?.isSome) = true ∧ ¬ es.any isViolation = true := by
  rw [conclude, if_neg h]
  cases es.any isViolation with
  | true => simp
  | false => cases es.any (·.deviation?.isSome) <;> simp

theorem status_conclude_eq_compliant_iff :
    (conclude r es).status = .compliant ↔
      ¬ es.any (·.deviation?.isSome) = true ∧ ¬ es.any isViolation = true := by
  rw [conclude, if_neg h]
  cases es.any isViolation with
  | true => simp
  | false => cases es.any (·.deviation?.isSome) <;> simp

end Standing

theorem any_isViolation_evidenceOn_comments {id : String} {cs : List Comment} :
    (evidenceOn id (cs.flatMap Comment.findings)).any Evidence.isViolation = true ↔
      ∃ k ∈ cs, ⟨id, .violation⟩ ∈ k.findings := by
  simp only [List.any_eq_true, mem_evidenceOn, List.mem_flatMap]
  constructor
  · rintro ⟨e, ⟨k, hk, he⟩, violation⟩
    cases e with
    | warning =>
      obtain ⟨-, s, -, -, warned⟩ := Comment.mem_findings_iff.mp he
      exact absurd warned s.evidence?_ne_warning
    | violation => exact ⟨k, hk, he⟩
    | deviation d => cases violation
  · rintro ⟨k, hk, he⟩
    exact ⟨.violation, ⟨k, hk, he⟩, rfl⟩

theorem any_deviation_evidenceOn_comments {id : String} {cs : List Comment} :
    (evidenceOn id (cs.flatMap Comment.findings)).any (·.deviation?.isSome) = true ↔
      ∃ k ∈ cs, ∃ d, ⟨id, .deviation d⟩ ∈ k.findings := by
  simp only [List.any_eq_true, mem_evidenceOn, List.mem_flatMap, Evidence.isSome_deviation?,
    Bool.not_eq_true']
  constructor
  · rintro ⟨e, ⟨k, hk, he⟩, deviates⟩
    obtain ⟨d, rfl⟩ := Evidence.eq_deviation_of_isViolation_eq_false deviates
    exact ⟨k, hk, d, he⟩
  · rintro ⟨k, hk, d, he⟩
    exact ⟨.deviation d, ⟨k, hk, he⟩, rfl⟩

namespace Assessment

open AuditEntry

variable {a : Assessment} {text : String} {plan : List String}

theorem findings_outcome_sources (a : Assessment) (files : List String) (sources : Sources) :
    (a.outcome [.sources files sources]).findings =
      (a.outcome [.sources files sources]).comments.flatMap Comment.findings := by
  rw [findings_outcome_singleton]
  rfl

theorem Begun.standing_of_mem_ingestSources (h : a.Begun text)
    (once : ∀ g ∈ a.catalog.guidelines, plan.countP (planSubject · = g.id) ≤ 1)
    {files : List String} {sources : Sources} {g : Guideline}
    (hg : g ∈ ((a.applyPlan plan).ingestSources files sources).catalog.guidelines) :
    g.standing = .conclude g.standing.recategorization
      (evidenceOn g.id (((a.applyPlan plan).ingestSources files sources).comments.flatMap
        Comment.findings)) := by
  have run : (a.applyPlan plan).ingestSources files sources =
      (a.applyPlan plan).ingestAll [.sources files sources] := rfl
  rw [run] at hg ⊢
  rw [comments_ingestAll, comments_applyPlan, h.comments_eq, List.nil_append,
    ← findings_outcome_sources]
  rw [guidelines_ingestAll] at hg
  obtain ⟨planned, hplanned, rfl⟩ := List.mem_map.mp hg
  simp only [Guideline.update, Standing.recategorization_takeAll]
  rw [← Standing.takeAll_planned, ← h.standing_eq_planned once hplanned]

theorem Begun.activeCategory_ne_disapplied (h : a.Begun text) {files : List String}
    {sources : Sources} {g : Guideline}
    (hg : g ∈ ((a.applyPlan plan).ingestSources files sources).catalog.guidelines)
    (applied : g.standing.recategorization ≠ some .disapplied) :
    g.activeCategory ≠ .disapplied := by
  have run : (a.applyPlan plan).ingestSources files sources =
      (a.applyPlan plan).ingestAll [.sources files sources] := rfl
  rw [run, guidelines_ingestAll, guidelines_applyPlan, List.map_map] at hg
  obtain ⟨begun, hbegun, rfl⟩ := List.mem_map.mp hg
  have original : begun.category ≠ .disapplied := h.category_ne_disapplied hbegun
  rw [Guideline.activeCategory]
  cases hr : Standing.recategorization _ with
  | none => exact original
  | some new =>
    rw [hr] at applied
    simpa using applied

/-- What the log says of a guideline is what its status says. -/
theorem status_iff_mem_messages (h : a.Begun text)
    (once : ∀ g ∈ a.catalog.guidelines, plan.countP (planSubject · = g.id) ≤ 1)
    (files : List String) (sources : Sources) {g : Guideline}
    (hg : g ∈ ((a.applyPlan plan).ingestSources files sources).catalog.guidelines) :
    let log := messages ((a.applyPlan plan).ingestSources files sources).auditEntries
    (g.standing.recategorization ≠ some .disapplied →
        (g.status = .violations ↔ violationMessage g.id g.activeCategory ∈ log) ∧
        (g.status = .deviations ↔ deviationMessage g.id g.activeCategory ∈ log ∧
          violationMessage g.id g.activeCategory ∉ log) ∧
        (g.status = .compliant ↔ deviationMessage g.id g.activeCategory ∉ log ∧
          violationMessage g.id g.activeCategory ∉ log)) ∧
      (g.standing.recategorization = some .disapplied → ∀ c, violationMessage g.id c ∉ log) := by
  intro log
  have standing := h.standing_of_mem_ingestSources once hg
  have category := Catalog.categoryOf_id hg
  constructor
  · intro applied
    have active := h.activeCategory_ne_disapplied hg applied
    have violated : violationMessage g.id g.activeCategory ∈ log ↔ _ :=
      violationMessage_mem_iff.trans (by simp only [category, true_and]; exact and_iff_right active)
    have deviated : deviationMessage g.id g.activeCategory ∈ log ↔ _ :=
      deviationMessage_mem_iff.trans (and_iff_right category)
    rw [violated, deviated, ← any_isViolation_evidenceOn_comments,
      ← any_deviation_evidenceOn_comments, Guideline.status, standing]
    exact ⟨Standing.status_conclude_eq_violations_iff applied _,
      Standing.status_conclude_eq_deviations_iff applied _,
      Standing.status_conclude_eq_compliant_iff applied _⟩
  · intro disapplied c mem
    obtain ⟨same, active, -⟩ := violationMessage_mem_iff.mp mem
    apply active
    rw [← same, category, Guideline.activeCategory, disapplied]
    rfl

theorem mem_messages_of_deviation :
    let text := "/*** Rule 1.1 (adv) ***/"
    let run := ((cppcheckOver text).applyPlan ["Rule 1.1, mandatory"]).ingestSources ["a.c"]
      fun _ => .ok "// cppcheck-suppress misra-c2012-1.1 DEVIATION(D1)"
    (cppcheckOver text).Begun text ∧
      ⟨"Rule 1.1", .advisory, ⟨some .mandatory, .deviations, [⟨some "D1", none⟩]⟩⟩ ∈
        run.catalog.guidelines ∧
      deviationMessage "Rule 1.1" .mandatory ∈ messages run.auditEntries ∧
      violationMessage "Rule 1.1" .mandatory ∉ messages run.auditEntries := by
  intro text run
  have begun := begun_cppcheckOver text
  have listed : ⟨"Rule 1.1", .advisory, ⟨some .mandatory, .deviations, [⟨some "D1", none⟩]⟩⟩ ∈
      run.catalog.guidelines := by decide +kernel
  have told := (status_iff_mem_messages begun (by decide +kernel) ["a.c"] _ listed).1 (by decide)
  exact ⟨begun, listed, told.2.1.mp rfl⟩

end Assessment

end GuidelineCompliance
