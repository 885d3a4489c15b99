import GuidelineCompliance.Proofs.Headings
import GuidelineCompliance.Proofs.Reachable

/-! What plans make of the guidelines. A plan gives each guideline the last category that it offers
and that the guideline admits, and refuses the rest. Whatever a run does after that, in whatever
order, a protected guideline is never weakened. -/

namespace GuidelineCompliance

/-- What may have become of the recategorization of a guideline with an original category. -/
structure Protected (original : Category) (now : Option Category) : Prop where
  mandatory : original = .mandatory → now = none ∨ now = some .mandatory
  required : original = .required → now ≠ some .advisory ∧ now ≠ some .disapplied
  known : now ≠ some .unknown

theorem Protected.of_admits {g : Guideline} {now : Option Category}
    (h : ∀ new, now = some new → g.admits new = true) : Protected g.category now := by
  cases now with
  | none => exact ⟨fun _ => Or.inl rfl, fun _ => ⟨by simp, by simp⟩, by simp⟩
  | some new =>
    have admitted := h new rfl
    simp only [Guideline.admits, Bool.and_eq_true, decide_eq_true_eq] at admitted
    obtain ⟨known, allowed⟩ := admitted
    refine ⟨fun mandatory => ?_, fun required => ?_, by simpa using known⟩
    · rw [mandatory] at allowed
      exact Or.inr (by simpa [Category.canBecome] using allowed)
    · rw [required] at allowed
      simpa [Category.canBecome] using allowed

namespace Assessment

variable {a b : Assessment}

theorem Reaches.admits (h : Reaches a b)
    (fresh : ∀ g ∈ a.catalog.guidelines, g.standing.recategorization = none) {g : Guideline}
    (hg : g ∈ b.catalog.guidelines) {new : Category}
    (given : g.standing.recategorization = some new) : g.admits new = true := by
  obtain ⟨first, hfirst, later⟩ := h.succeeds hg
  obtain kept | ⟨new', given', admitted⟩ := later.recategorization
  · rw [fresh first hfirst, given] at kept
    cases kept
  · rw [given] at given'
    cases given'
    rw [Guideline.admits_congr later.category]
    exact admitted

theorem Reaches.category_eq_unknown (h : Reaches a b)
    (fresh : ∀ g ∈ a.catalog.guidelines, g.standing.recategorization = none) {g : Guideline}
    (hg : g ∈ b.catalog.guidelines) (unknown : g.activeCategory = .unknown) :
    g.category = .unknown ∧ g.standing.recategorization = none := by
  cases given : g.standing.recategorization with
  | none => exact ⟨by simpa [Guideline.activeCategory, given] using unknown, rfl⟩
  | some new =>
    have known := (Protected.of_admits fun _ => h.admits fresh hg).known
    rw [Guideline.activeCategory, given, Option.getD_some] at unknown
    exact absurd (given.trans (congrArg some unknown)) known

/-- The last category that a plan offers a guideline and that the guideline admits is the one it
has after the plan, and each other line with an id is one fault. No run weakens a guideline. -/
theorem applyPlan_exact
    (fresh : ∀ g ∈ a.catalog.guidelines, g.standing.recategorization = none)
    (lines : List String) :
    (a.applyPlan lines).catalog.guidelines.map (fun g => (g.id, g.standing.recategorization)) =
        a.catalog.guidelines.map (fun g =>
          (g.id, ((lines.filter (planSubject · ≠ "")).filterMap g.grant?).getLast?)) ∧
      (a.applyPlan lines).faults = a.faults ++ lines.flatMap (planFaults a.catalog) ∧
      (∀ line, planSubject line = "" ∨
          (∃ g ∈ a.catalog.guidelines, (g.grant? line).isSome = true) →
        planFaults a.catalog line = []) ∧
      (∀ line, planSubject line ≠ "" → (∀ g ∈ a.catalog.guidelines, g.grant? line = none) →
        ∃ f, planFaults a.catalog line = [f] ∧ f.kind = .recategorizationPlan) ∧
      ∀ b, Reaches a b → ∀ g ∈ a.catalog.guidelines, ∀ g' ∈ b.catalog.guidelines, g'.id = g.id →
        Protected g.category g'.standing.recategorization := by
  refine ⟨?_, by rw [applyPlan_eq, applyChanges], ?_, fun _ => planFaults_of_refused, ?_⟩
  · rw [guidelines_applyPlan, List.map_map]
    apply List.map_congr_left
    intro g hg
    simp only [Function.comp_apply, Guideline.update,
      recategorization_applyPlan hg, fresh g hg, Option.or_none]
  · rintro line (blank | ⟨g, hg, granted⟩)
    · exact planFaults_of_blank _ blank
    · exact planFaults_of_grant hg granted
  · intro b reached g hg g' hg' same
    obtain ⟨first, hfirst, later⟩ := reached.succeeds hg'
    -- An id stands for one guideline, so the two records are of the same one.
    obtain rfl : first = g :=
      List.inj_on_of_nodup_map a.catalog.nodup hfirst hg (later.id.symm.trans same)
    rw [← later.category]
    exact .of_admits fun new given => reached.admits fresh hg' given

theorem applyPlan_exact_of_refused_lines :
    let a := cppcheckOver "/*** Rule 1.1 (adv) ***//*** Rule 1.2 (req) ***/"
    let lines := ["Rule 1.1, mand, later", "Rule 1.2, advisory", " , required", "Rule 1.1, doc",
      "Rule 9.9, required"]
    (∀ g ∈ a.catalog.guidelines, g.standing.recategorization = none) ∧
      (a.applyPlan lines).catalog.guidelines.map (fun g => (g.id, g.standing.recategorization)) =
        [("Rule 1.1", some .mandatory), ("Rule 1.2", none)] ∧
      (a.applyPlan lines).faults =
        [.illegalRecategorization "Rule 1.2" .required .advisory, .unknownPlanCategory "doc",
          .planGuidelineNotFound "Rule 9.9"] := by
  intro a lines
  have fresh : ∀ g ∈ a.catalog.guidelines, g.standing.recategorization = none := by
    decide +kernel
  obtain ⟨given, refused, -⟩ := applyPlan_exact fresh lines
  refine ⟨fresh, ?_, ?_⟩
  · rw [given]
    decide +kernel
  · rw [refused]
    decide +kernel

/-- A guideline without an id is out of reach of any plan. -/
theorem not_forall_last_grant :
    ¬ ∀ a : Assessment, (∀ g ∈ a.catalog.guidelines, g.standing.recategorization = none) →
      ∀ lines : List String,
        (a.applyPlan lines).catalog.guidelines.map (fun g => (g.id, g.standing.recategorization)) =
          a.catalog.guidelines.map (fun g => (g.id, (lines.filterMap g.grant?).getLast?)) := by
  intro last
  have unnamed := last { cppcheckOver "" with catalog := .ofGuidelines [⟨"", .advisory, {}⟩] }
    (by decide +kernel) [", required"]
  exact absurd unnamed (by decide +kernel)

end Assessment

end GuidelineCompliance
