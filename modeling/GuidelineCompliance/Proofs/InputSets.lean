import GuidelineCompliance.Proofs.FaultCodes
import GuidelineCompliance.Proofs.Headings
import GuidelineCompliance.Proofs.Ingestion

/-! Runs over the same lines and files. The order of the lines and files, their repetitions and the
calls that take them in make no difference to the statuses, the code, the summary and the
verdict. They do to the deviations that are kept, and to the list of the faults. -/

namespace GuidelineCompliance

namespace Ingestion

def ReadsFrom (read : Sources) : Ingestion → Prop
  | warnings _ => True
  | sources _ read' => read' = read

theorem mem_items {read : Sources} {i : Ingestion} (h : i.ReadsFrom read) {x : Item} :
    x ∈ i.items ↔ (∃ l ∈ i.lines, .line l = x) ∨ ∃ f ∈ i.files, .source f read = x := by
  cases i with
  | warnings ls => simp [items, lines, files]
  | sources fs read' =>
    obtain rfl : read' = read := h
    simp [items, lines, files]

/-- Two lists of calls over the same sources that take in the same lines and the same files. -/
structure SameInputs (read : Sources) (is js : List Ingestion) : Prop where
  left : ∀ i ∈ is, i.ReadsFrom read
  right : ∀ j ∈ js, j.ReadsFrom read
  lines : ∀ l, l ∈ is.flatMap lines ↔ l ∈ js.flatMap lines
  files : ∀ f, f ∈ is.flatMap files ↔ f ∈ js.flatMap files

theorem mem_flatMap_items {read : Sources} {is : List Ingestion} (h : ∀ i ∈ is, i.ReadsFrom read)
    {x : Item} :
    x ∈ is.flatMap items ↔
      (∃ l ∈ is.flatMap lines, .line l = x) ∨ ∃ f ∈ is.flatMap files, .source f read = x := by
  simp only [List.mem_flatMap]
  constructor
  · rintro ⟨i, hi, hx⟩
    obtain ⟨l, hl, rfl⟩ | ⟨f, hf, rfl⟩ := (mem_items (h i hi)).mp hx
    · exact Or.inl ⟨l, ⟨i, hi, hl⟩, rfl⟩
    · exact Or.inr ⟨f, ⟨i, hi, hf⟩, rfl⟩
  · rintro (⟨l, ⟨i, hi, hl⟩, rfl⟩ | ⟨f, ⟨i, hi, hf⟩, rfl⟩)
    · exact ⟨i, hi, (mem_items (h i hi)).mpr (Or.inl ⟨l, hl, rfl⟩)⟩
    · exact ⟨i, hi, (mem_items (h i hi)).mpr (Or.inr ⟨f, hf, rfl⟩)⟩

theorem SameInputs.mem_items_iff {read : Sources} {is js : List Ingestion}
    (h : SameInputs read is js) (x : Item) : x ∈ is.flatMap items ↔ x ∈ js.flatMap items := by
  simp only [mem_flatMap_items h.left, mem_flatMap_items h.right, h.lines, h.files]

end Ingestion

def Guideline.result (g : Guideline) : String × Category × Status :=
  (g.id, g.activeCategory, g.status)

namespace Catalog

def results (c : Catalog) : List (String × Category × Status) := c.guidelines.map Guideline.result

theorem count_eq_countP_results (c : Catalog) (status : Status) (category : Category) :
    Summary.count c status category =
      c.results.countP fun r => r.2.2 = status && r.2.1 = category := by
  rw [results, List.countP_map]
  rfl

theorem summary_congr {c d : Catalog} (h : c.results = d.results) : c.summary = d.summary := by
  have count : Summary.count c = Summary.count d := by
    funext status category
    rw [count_eq_countP_results, h, count_eq_countP_results]
  simp only [summary, Summary.sentence, count]

theorem isCompliant_eq_all_results (c : Catalog) :
    c.isCompliant = c.results.all fun r => !(r.2.2 = .violations && r.2.1.isBinding) := by
  rw [results, List.all_map]
  rfl

end Catalog

namespace Assessment

open Ingestion

variable {read : Sources} {is js : List Ingestion}

theorem results_ingestAll (a : Assessment) (h : SameInputs read is js) :
    (a.ingestAll is).catalog.results = (a.ingestAll js).catalog.results := by
  have found (id : String) (e : Evidence) :
      e ∈ evidenceOn id (a.outcome is).findings ↔ e ∈ evidenceOn id (a.outcome js).findings := by
    simp only [mem_evidenceOn, outcome, Outcome.join, List.mem_flatMap, List.mem_map,
      exists_exists_and_eq_and, h.mem_items_iff]
  rw [Catalog.results, Catalog.results, guidelines_ingestAll, guidelines_ingestAll, List.map_map,
    List.map_map]
  apply List.map_congr_left
  intro g _
  have status := Standing.status_takeAll_congr g.standing (found g.id)
  simp only [Function.comp_apply, Guideline.result, Guideline.activeCategory_update_takeAll]
  simp only [Guideline.status, Guideline.update, status]

theorem code_ingestAll (a : Assessment) (h : SameInputs read is js) :
    (a.ingestAll is).code = (a.ingestAll js).code := by
  have faults (f : Fault) : f ∈ (a.outcome is).faults ↔ f ∈ (a.outcome js).faults := by
    simp only [outcome, Outcome.join, List.mem_flatMap, List.mem_map,
      exists_exists_and_eq_and, h.mem_items_iff]
  rw [ingestAll_eq_extend, ingestAll_eq_extend, extend, extend]
  exact FaultCode.addAll_congr a.code faults

/-- What a run reports depends on the sets of its lines and files alone. -/
theorem ingestAll_congr (a : Assessment) (h : SameInputs read is js) :
    ((a.ingestAll is).catalog.guidelines.map fun g => (g.id, g.status)) =
        ((a.ingestAll js).catalog.guidelines.map fun g => (g.id, g.status)) ∧
      (a.ingestAll is).code = (a.ingestAll js).code ∧
      (a.ingestAll is).summary = (a.ingestAll js).summary ∧
      (a.ingestAll is).isCompliant = (a.ingestAll js).isCompliant := by
  have results := results_ingestAll a h
  have code := code_ingestAll a h
  refine ⟨?_, code, Catalog.summary_congr results, ?_⟩
  · have statuses := congrArg (List.map fun r => (r.1, r.2.2)) results
    simpa [Catalog.results, Guideline.result, Function.comp_def] using statuses
  · simp only [isCompliant, code, Catalog.isCompliant_eq_all_results, results]

/-- An illegal deviation that is read twice, once ahead of the warning that it does not hide. -/
theorem ingestAll_congr_of_repeated_file :
    let read : Sources := fun _ => .ok "// cppcheck-suppress misra-c2012-1.1 DEVIATION(D1)"
    let warning := "[a.c:1] shadowed [misra-c2012-1.1]"
    let is : List Ingestion := [.sources ["a.c"] read, .warnings [warning], .sources ["a.c"] read]
    let js : List Ingestion := [.warnings [warning], .sources ["a.c"] read]
    let a := (cppcheckOver "/*** Rule 1.1 (mand) ***/").ingestAll is
    SameInputs read is js ∧
      a.summary = "There were violations of 1 mandatory guideline. There were no deviations." ∧
      a.code = .ofKind .illegalDeviation ∧
      a.comments.map Comment.guidelines = [["Rule 1.1"], ["Rule 1.1"]] := by
  intro read warning is js a
  have same : SameInputs read is js :=
    { left := by simp [is, ReadsFrom]
      right := by simp [js, ReadsFrom]
      lines := by simp [is, js, lines]
      files := by simp [is, js, files] }
  obtain ⟨-, code, summary, -⟩ := ingestAll_congr _ same
  refine ⟨same, ?_, ?_, by decide +kernel⟩
  · rw [summary]
    decide +kernel
  · rw [code]
    decide +kernel

end Assessment

end GuidelineCompliance
