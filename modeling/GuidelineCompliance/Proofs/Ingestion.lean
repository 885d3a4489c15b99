import GuidelineCompliance.Proofs.Outcome

/-! Ingestion. The lines of an analyzer and the source files are the items that a run takes in,
one after the other. The outcome of an item depends on the plan and on nothing that other items
add, so a run of ingestions comes to the join of the outcomes of its items. -/

namespace GuidelineCompliance

def Violation.findings (v : Violation) : List Finding :=
  if v.guideline = "" then [] else [⟨v.guideline, .warning⟩]

def Suppression.evidence? (s : Suppression) : Option Evidence :=
  if s.mark.isFalsePositive then none
  else if s.mark.isDeviation then some (.deviation s.mark.deviation)
  else some .violation

namespace Suppression

theorem evidence?_eq_violation_iff {s : Suppression} :
    s.evidence? = some .violation ↔
      s.mark.isFalsePositive = false ∧ s.mark.isDeviation = false := by
  cases hf : s.mark.isFalsePositive <;> cases hd : s.mark.isDeviation <;>
    simp [evidence?, hf, hd]

theorem evidence?_ne_warning (s : Suppression) : s.evidence? ≠ some .warning := by
  cases hf : s.mark.isFalsePositive <;> cases hd : s.mark.isDeviation <;>
    simp [evidence?, hf, hd]

end Suppression

def Suppression.findings (s : Suppression) : List Finding :=
  s.evidence?.toList.map fun e => ⟨s.guideline, e⟩

def Comment.findings (c : Comment) : List Finding :=
  if c.isNonMisra then [] else c.suppressions.flatMap Suppression.findings

theorem Comment.mem_findings_iff {c : Comment} {id : String} {e : Evidence} :
    ⟨id, e⟩ ∈ c.findings ↔
      c.isNonMisra = false ∧ ∃ s ∈ c.suppressions, s.guideline = id ∧ s.evidence? = some e := by
  cases hn : c.isNonMisra with
  | true => simp [findings, hn]
  | false => simp [findings, Suppression.findings, hn, and_comm]

inductive Item where
  | line (text : String)
  | source (file : String) (sources : Sources)

inductive Ingestion where
  | warnings (lines : List String)
  | sources (files : List String) (sources : Sources)

namespace Ingestion

def lines : Ingestion → List String
  | warnings lines => lines
  | sources _ _ => []

def files : Ingestion → List String
  | warnings _ => []
  | sources files _ => files

def items : Ingestion → List Item
  | warnings lines => lines.map Item.line
  | sources files read => files.map fun file => Item.source file read

end Ingestion

namespace Assessment

def ingest (a : Assessment) : Ingestion → Assessment
  | .warnings lines => a.ingestWarnings lines
  | .sources files sources => a.ingestSources files sources

def ingestAll (a : Assessment) (is : List Ingestion) : Assessment := is.foldl ingest a

def violationFaults (a : Assessment) (v : Violation) : List Fault :=
  if v.guideline = "" ∨ a.catalog.contains v.guideline then []
  else [.unknownWarning a.tool v.guideline v.file]

def suppressionFaults (a : Assessment) (file : String) (s : Suppression) : List Fault :=
  match a.catalog.get? s.guideline with
  | none => [.unknownSuppression file s.guideline]
  | some g =>
    if !s.mark.isFalsePositive && s.mark.isDeviation && g.activeCategory = .mandatory then
      [.illegalDeviation file s.guideline]
    else []

def commentFaults (a : Assessment) (file : String) (c : Comment) : List Fault :=
  if c.isNonMisra then [] else c.suppressions.flatMap (a.suppressionFaults file)

def itemOutcome (a : Assessment) : Item → Outcome
  | .line text =>
    let violations := a.reader.violations text
    ⟨violations.flatMap Violation.findings, violations.flatMap a.violationFaults, []⟩
  | .source file sources =>
    match sources file with
    | .error reason => ⟨[], [.unreadableSource file reason], []⟩
    | .ok source =>
      let (comments, faults) := a.readComments file source
      { findings := comments.flatMap Comment.findings
        faults := faults ++ comments.flatMap (a.commentFaults file)
        comments }

def outcome (a : Assessment) (is : List Ingestion) : Outcome :=
  .join ((is.flatMap Ingestion.items).map a.itemOutcome)

theorem outcome_warnings (a : Assessment) (lines : List String) :
    a.outcome [.warnings lines] =
      ⟨(lines.flatMap a.reader.violations).flatMap Violation.findings,
        (lines.flatMap a.reader.violations).flatMap a.violationFaults, []⟩ := by
  simp [outcome, Outcome.join, Ingestion.items, itemOutcome, List.flatMap_map, List.flatMap_assoc]

theorem findings_outcome_singleton (a : Assessment) (i : Ingestion) :
    (a.outcome [i]).findings =
      (i.lines.flatMap a.reader.violations).flatMap Violation.findings ++
        (a.outcome [i]).comments.flatMap Comment.findings := by
  have each (file : String) (sources : Sources) :
      (a.itemOutcome (.source file sources)).findings =
        (a.itemOutcome (.source file sources)).comments.flatMap Comment.findings := by
    simp only [itemOutcome]
    cases sources file <;> rfl
  cases i with
  | warnings lines => simp [outcome_warnings, Ingestion.lines]
  | sources files sources =>
    simp [outcome, Outcome.join, Ingestion.items, Ingestion.lines, List.flatMap_map,
      List.flatMap_assoc, each]

theorem outcome_eq_join (a : Assessment) (is : List Ingestion) :
    a.outcome is = .join (is.map fun i => a.outcome [i]) := by
  rw [outcome, List.map_flatMap, Outcome.join_flatMap]
  simp only [outcome, List.flatMap_singleton]

theorem mem_findings_outcome {a : Assessment} {is : List Ingestion} {f : Finding} :
    f ∈ (a.outcome is).findings ↔
      (∃ line ∈ is.flatMap Ingestion.lines, ∃ v ∈ a.reader.violations line, f ∈ v.findings) ∨
        ∃ c ∈ (a.outcome is).comments, f ∈ c.findings := by
  rw [outcome_eq_join]
  simp only [Outcome.join, List.flatMap_map, List.mem_flatMap, findings_outcome_singleton,
    List.mem_append]
  constructor
  · rintro ⟨i, hi, ⟨v, ⟨line, hline, hv⟩, hf⟩ | ⟨c, hc, hf⟩⟩
    · exact Or.inl ⟨line, ⟨i, hi, hline⟩, v, hv, hf⟩
    · exact Or.inr ⟨c, ⟨i, hi, hc⟩, hf⟩
  · rintro (⟨line, ⟨i, hi, hline⟩, v, hv, hf⟩ | ⟨c, ⟨i, hi, hc⟩, hf⟩)
    · exact ⟨i, hi, Or.inl ⟨v, ⟨line, hline, hv⟩, hf⟩⟩
    · exact ⟨i, hi, Or.inr ⟨c, hc, hf⟩⟩

theorem contains_extend (a : Assessment) (o : Outcome) (id : String) :
    (a.extend o).catalog.contains id = a.catalog.contains id := by
  simp [extend, Catalog.contains, Catalog.get?_takeAll]

@[simp] theorem violationFaults_extend (a : Assessment) (o : Outcome) :
    (a.extend o).violationFaults = a.violationFaults := by
  funext v
  simp only [violationFaults, contains_extend]
  rfl

@[simp] theorem suppressionFaults_extend (a : Assessment) (o : Outcome) :
    (a.extend o).suppressionFaults = a.suppressionFaults := by
  funext file s
  simp only [suppressionFaults, extend, Catalog.get?_takeAll]
  cases a.catalog.get? s.guideline with
  | none => rfl
  | some g => simp only [Option.map_some, Guideline.activeCategory_update_takeAll]

@[simp] theorem commentFaults_extend (a : Assessment) (o : Outcome) :
    (a.extend o).commentFaults = a.commentFaults := by
  funext file c
  simp only [commentFaults, suppressionFaults_extend]

@[simp] theorem itemOutcome_extend (a : Assessment) (o : Outcome) :
    (a.extend o).itemOutcome = a.itemOutcome := by
  funext x
  cases x with
  | line text =>
    simp only [itemOutcome, violationFaults_extend]
    rfl
  | source file sources =>
    simp only [itemOutcome, commentFaults_extend]
    rfl

@[simp] theorem outcome_extend (a : Assessment) (o : Outcome) :
    (a.extend o).outcome = a.outcome := by
  funext is
  simp only [outcome, itemOutcome_extend]

theorem addViolation_eq_extend (a : Assessment) (v : Violation) :
    a.addViolation v = a.extend ⟨v.findings, a.violationFaults v, []⟩ := by
  by_cases hv : v.guideline = ""
  · simp [addViolation, Violation.findings, violationFaults, hv, extend]
  · simp only [addViolation, Violation.findings, violationFaults, Catalog.contains, hv, extend,
      if_false, false_or, Catalog.takeAll_singleton, List.append_nil]
    cases hg : a.catalog.get? v.guideline with
    | none =>
      rw [Catalog.update_of_get?_eq_none hg]
      rfl
    | some g =>
      cases hd : g.isDisapplied with
      | true =>
        have kept : a.catalog.update v.guideline (·.take .warning) = a.catalog :=
          Catalog.update_eq_self hg (Standing.take_of_isDisapplied hd .warning)
        simp [hd, kept]
      | false =>
        have taken : a.catalog.update v.guideline (·.take .warning) =
            a.catalog.update v.guideline Standing.recordViolation :=
          Catalog.update_congr hg (if_neg (Bool.eq_false_iff.mp hd))
        simp [hd, taken, update]

theorem applySuppression_eq_extend (a : Assessment) (file : String) (s : Suppression) :
    a.applySuppression file s = a.extend ⟨s.findings, a.suppressionFaults file s, []⟩ := by
  cases hg : a.catalog.get? s.guideline with
  | none =>
    have kept : a.catalog.takeAll s.findings = a.catalog := by
      rw [Suppression.findings]
      cases s.evidence? with
      | none => rfl
      | some e => exact Catalog.update_of_get?_eq_none hg _
    simp [applySuppression, suppressionFaults, hg, record, extend, kept, FaultCode.addAll]
  | some g =>
    simp only [applySuppression, suppressionFaults, Suppression.findings, Suppression.evidence?, hg]
    cases s.mark.isFalsePositive with
    | true => simp [extend]
    | false =>
      cases s.mark.isDeviation with
      | false =>
        simp [extend, update]
        rfl
      | true =>
        by_cases hm : g.activeCategory = .mandatory
        · -- A mandatory guideline is not disapplied, so the test for that adds nothing.
          have hd : g.isDisapplied = false := Guideline.isDisapplied_eq_false (by simp [hm])
          simp [hm, hd, record, extend, update, FaultCode.addAll]
          rfl
        · simp [hm, extend, update]
          rfl

theorem applyComment_eq_extend (a : Assessment) (file : String) (c : Comment) :
    a.applyComment file c = a.extend ⟨c.findings, a.commentFaults file c, []⟩ := by
  cases hn : c.isNonMisra with
  | true => simp [applyComment, Comment.findings, commentFaults, hn, extend]
  | false =>
    have each := foldl_eq_extend (fun a s => applySuppression_eq_extend a file s)
      (fun a o => by rw [suppressionFaults_extend]) a c.suppressions
    rw [Outcome.join_map_of_no_comments] at each
    simpa [applyComment, Comment.findings, commentFaults, hn] using each

theorem addViolations_eq_extend (a : Assessment) (text : String) :
    (a.reader.violations text).foldl addViolation a = a.extend (a.itemOutcome (.line text)) := by
  rw [foldl_eq_extend addViolation_eq_extend fun a o => by rw [violationFaults_extend]]
  rw [Outcome.join_map_of_no_comments]
  rfl

theorem applyComments_eq_extend (a : Assessment) (file : String) (cs : List Comment) :
    cs.foldl (fun a c => a.applyComment file c) a =
      a.extend ⟨cs.flatMap Comment.findings, cs.flatMap (a.commentFaults file), []⟩ := by
  rw [foldl_eq_extend (fun a c => applyComment_eq_extend a file c) fun a o => by
    rw [commentFaults_extend]]
  rw [Outcome.join_map_of_no_comments]

theorem ingestSource_eq_extend (sources : Sources) (a : Assessment) (file : String) :
    ingestSource sources a file = a.extend (a.itemOutcome (.source file sources)) := by
  simp only [ingestSource, itemOutcome]
  cases sources file with
  | error reason => exact record_eq_extend a _
  | ok source =>
    simp only [recordAll_eq_extend, applyComments_eq_extend, commentFaults_extend]
    simp [extend, FaultCode.addAll_append]

theorem ingest_eq_extend (a : Assessment) (i : Ingestion) :
    a.ingest i = a.extend (a.outcome [i]) := by
  cases i with
  | warnings lines =>
    rw [ingest, ingestWarnings, foldl_eq_extend addViolations_eq_extend fun a o => by
      rw [itemOutcome_extend]]
    simp [outcome, Ingestion.items, Function.comp_def]
  | sources files sources =>
    rw [ingest, ingestSources, foldl_eq_extend (ingestSource_eq_extend sources) fun a o => by
      rw [itemOutcome_extend]]
    simp [outcome, Ingestion.items, Function.comp_def]

theorem ingestAll_eq_extend (a : Assessment) (is : List Ingestion) :
    a.ingestAll is = a.extend (a.outcome is) := by
  rw [ingestAll, foldl_eq_extend ingest_eq_extend fun a o => by rw [outcome_extend],
    ← outcome_eq_join]

theorem comments_ingestAll (a : Assessment) (is : List Ingestion) :
    (a.ingestAll is).comments = a.comments ++ (a.outcome is).comments := by
  rw [ingestAll_eq_extend, extend]

theorem guidelines_ingestAll (a : Assessment) (is : List Ingestion) :
    (a.ingestAll is).catalog.guidelines = a.catalog.guidelines.map fun g =>
      g.update (·.takeAll (evidenceOn g.id (a.outcome is).findings)) := by
  rw [ingestAll_eq_extend, extend, Catalog.guidelines_takeAll]

end Assessment

end GuidelineCompliance
