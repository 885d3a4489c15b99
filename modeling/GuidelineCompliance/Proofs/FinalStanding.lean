import GuidelineCompliance.Proofs.Headings
import GuidelineCompliance.Proofs.Ingestion
import GuidelineCompliance.Proofs.Plan

/-! The final standing of a guideline after a plan that names it at most once, the lines of the
analyzer and the source files. It is read off the plan and the evidence on the guideline, in the
order in which the run meets it. -/

namespace GuidelineCompliance

def Comment.evidenceOn (c : Comment) (id : String) : List Evidence :=
  if c.isNonMisra then []
  else (c.suppressions.filter (·.guideline = id)).filterMap Suppression.evidence?

/-- The evidence on a guideline: the violations that the lines report, and then the suppressions
of the comments. -/
def evidenceFrom (reader : Reader) (lines : List String) (comments : List Comment) (id : String) :
    List Evidence :=
  ((lines.flatMap reader.violations).filter (·.guideline = id)).map (fun _ => .warning) ++
    comments.flatMap fun c => c.evidenceOn id

section Findings

variable {id : String}

theorem evidenceOn_violations (h : id ≠ "") (vs : List Violation) :
    evidenceOn id (vs.flatMap Violation.findings) =
      (vs.filter (·.guideline = id)).map fun _ => .warning := by
  induction vs with
  | nil => rfl
  | cons v vs ih =>
    rw [List.flatMap_cons, evidenceOn_append, ih]
    by_cases hv : v.guideline = id
    · simp [Violation.findings, evidenceOn, hv, h]
    · by_cases unnamed : v.guideline = ""
      · simp [Violation.findings, evidenceOn, unnamed, h.symm]
      · simp [Violation.findings, evidenceOn, unnamed, hv]

theorem evidenceOn_suppressions (ss : List Suppression) :
    evidenceOn id (ss.flatMap Suppression.findings) =
      (ss.filter (·.guideline = id)).filterMap Suppression.evidence? := by
  induction ss with
  | nil => rfl
  | cons s ss ih =>
    rw [List.flatMap_cons, evidenceOn_append, ih]
    by_cases hs : s.guideline = id
    · cases he : s.evidence? <;> simp [Suppression.findings, evidenceOn, hs, he]
    · cases he : s.evidence? <;> simp [Suppression.findings, evidenceOn, hs, he]

theorem evidenceOn_comments (cs : List Comment) :
    evidenceOn id (cs.flatMap Comment.findings) = cs.flatMap fun c => c.evidenceOn id := by
  rw [evidenceOn_flatMap]
  congr
  funext c
  rw [Comment.findings, Comment.evidenceOn]
  split
  · rfl
  · exact evidenceOn_suppressions c.suppressions

theorem evidenceOn_outcome (h : id ≠ "") (a : Assessment) (lines files : List String)
    (sources : Sources) :
    evidenceOn id (a.outcome [.warnings lines, .sources files sources]).findings =
      evidenceFrom a.reader lines
        (a.outcome [.warnings lines, .sources files sources]).comments id := by
  have uncommented : (a.outcome [.warnings lines]).comments = [] := by
    simp [Assessment.outcome, Outcome.join, Ingestion.items, Assessment.itemOutcome]
  rw [Assessment.outcome_eq_join]
  simp only [Outcome.join, List.map_cons, List.map_nil, List.flatMap_cons, List.flatMap_nil,
    List.append_nil, Assessment.findings_outcome_singleton, Ingestion.lines, uncommented,
    List.nil_append, evidenceOn_append, evidenceOn_violations h, evidenceOn_comments, evidenceFrom]

end Findings

namespace Assessment

variable {a : Assessment} {text : String} {plan : List String}

/-- Violations dominate deviations, a plan that disapplies the guideline dominates both, and the
deviations that are kept are those ahead of the first violation. -/
theorem guidelines_eq_conclude (h : a.Begun text)
    (once : ∀ g ∈ a.catalog.guidelines, plan.countP (planSubject · = g.id) ≤ 1)
    (lines files : List String) (sources : Sources) :
    (((a.applyPlan plan).ingestWarnings lines).ingestSources files sources).catalog.guidelines =
      (a.applyPlan plan).catalog.guidelines.map fun g =>
        { g with
          standing := .conclude g.standing.recategorization
            (evidenceFrom a.reader lines
              (((a.applyPlan plan).ingestWarnings lines).ingestSources files sources).comments
              g.id) } := by
  let is : List Ingestion := [.warnings lines, .sources files sources]
  have run : ((a.applyPlan plan).ingestWarnings lines).ingestSources files sources =
      (a.applyPlan plan).ingestAll is := rfl
  rw [run, comments_ingestAll, comments_applyPlan, h.comments_eq, List.nil_append,
    guidelines_ingestAll]
  apply List.map_congr_left
  intro g hg
  have named : g.id ≠ "" := h.id_ne_empty_of_mem_applyPlan hg
  rw [evidenceOn_outcome named, reader_applyPlan, Guideline.update]
  congr 1
  calc
    g.standing.takeAll _ = (Standing.planned g.standing.recategorization).takeAll _ := by
      rw [← h.standing_eq_planned once hg]
    _ = _ := Standing.takeAll_planned _ _

/-- A warning of a disapplied guideline counts for nothing, and the deviation behind a violation is
not kept. -/
theorem guidelines_of_deviation_behind_violation :
    (cppcheckOver "/*** Rule 1.1 (adv) ***//*** Rule 1.2 (req) ***/").Begun
        "/*** Rule 1.1 (adv) ***//*** Rule 1.2 (req) ***/" ∧
      ((((cppcheckOver "/*** Rule 1.1 (adv) ***//*** Rule 1.2 (req) ***/").applyPlan
        ["Rule 1.1, disapplied"]).ingestWarnings
        ["[a.c:1] shadowed [misra-c2012-1.1]"]).ingestSources ["a.c"] fun _ =>
          .ok ("// cppcheck-suppress misra-c2012-1.2 DEVIATION(D1)\n" ++
            "// cppcheck-suppress misra-c2012-1.2\n" ++
            "// cppcheck-suppress misra-c2012-1.2 DEVIATION(D2)\n")).catalog.guidelines =
        [⟨"Rule 1.1", .advisory, ⟨some .disapplied, .disapplied, []⟩⟩,
          ⟨"Rule 1.2", .required, ⟨none, .violations, [⟨some "D1", none⟩]⟩⟩] := by
  have begun := begun_cppcheckOver "/*** Rule 1.1 (adv) ***//*** Rule 1.2 (req) ***/"
  refine ⟨begun, ?_⟩
  rw [guidelines_eq_conclude begun (by decide +kernel)]
  decide +kernel

end Assessment

end GuidelineCompliance
