import GuidelineCompliance.Proofs.Plan

/-! The lines of a plan, one by one. A line without an id counts for nothing. Any other line either
gives its guideline the category that it names or is refused with one fault, and which of the two
it is depends on the category of the reference document and not on earlier lines. -/

namespace GuidelineCompliance

theorem Category.ofToken_empty : ofToken "" = unknown := by decide +kernel

def Guideline.admits (g : Guideline) (new : Category) : Bool :=
  new ≠ .unknown && g.category.canBecome new

namespace Assessment

def planToken (line : String) : String := ((Text.split ',' line).map Text.trim).getD 1 ""

def refusal (g : Guideline) (line : String) : Fault :=
  if planToken line = "" then .malformedPlanLine line
  else if Category.ofToken (planToken line) = .unknown then .unknownPlanCategory (planToken line)
  else .illegalRecategorization (planSubject line) g.category (.ofToken (planToken line))

theorem kind_refusal (g : Guideline) (line : String) :
    (refusal g line).kind = .recategorizationPlan := by
  unfold refusal
  split_ifs <;> rfl

theorem planLine_eq (c : Catalog) (line : String) :
    planLine c line =
      if planSubject line = "" then .blank
      else
        match c.get? (planSubject line) with
        | none => .faulty (.planGuidelineNotFound (planSubject line))
        | some g =>
          if planToken line = "" then .faulty (.malformedPlanLine line)
          else if Category.ofToken (planToken line) = .unknown then
            .faulty (.unknownPlanCategory (planToken line))
          else if g.category.canBecome (.ofToken (planToken line)) then
            .change (planSubject line) (.ofToken (planToken line))
          else .faulty (.illegalRecategorization (planSubject line) g.category
            (.ofToken (planToken line))) := rfl

theorem planLine_of_get?_eq_some {c : Catalog} {line : String} {g : Guideline}
    (named : planSubject line ≠ "") (listed : c.get? (planSubject line) = some g) :
    planLine c line =
      if g.admits (.ofToken (planToken line)) then
        .change (planSubject line) (.ofToken (planToken line))
      else .faulty (refusal g line) := by
  simp only [planLine_eq, if_neg named, listed, refusal, Guideline.admits]
  by_cases empty : planToken line = ""
  · simp [empty, Category.ofToken_empty]
  · by_cases unknown : Category.ofToken (planToken line) = .unknown
    · simp [empty, unknown]
    · by_cases allowed : g.category.canBecome (.ofToken (planToken line)) = true
      · simp [empty, unknown, allowed]
      · simp [empty, unknown, allowed]

end Assessment

open Assessment

/-- The category that a line gives to the guideline, if it names the guideline and a category that
the guideline admits. -/
def Guideline.grant? (g : Guideline) (line : String) : Option Category :=
  if planSubject line = g.id ∧ g.admits (.ofToken (planToken line)) = true then
    some (.ofToken (planToken line))
  else none

theorem Guideline.admits_of_grant?_eq_some {g : Guideline} {line : String} {new : Category}
    (h : g.grant? line = some new) : g.admits new = true := by
  unfold grant? at h
  split_ifs at h with granted
  cases h
  exact granted.2

theorem Guideline.planSubject_of_isSome_grant? {g : Guideline} {line : String}
    (h : (g.grant? line).isSome = true) : planSubject line = g.id := by
  by_contra other
  simp [grant?, other] at h

namespace Assessment

variable {c : Catalog} {g : Guideline} {line : String}

theorem changesOf_planChanges (hg : g ∈ c.guidelines) (named : planSubject line ≠ "") :
    changesOf g.id (planChanges c line) = (g.grant? line).toList := by
  by_cases same : planSubject line = g.id
  · have listed : c.get? (planSubject line) = some g :=
      Catalog.get?_eq_some_iff.mpr ⟨hg, same.symm⟩
    rw [planChanges, planLine_of_get?_eq_some named listed]
    by_cases granted : g.admits (.ofToken (planToken line)) = true
    · simp [granted, Guideline.grant?, same, changesOf]
    · simp [granted, Guideline.grant?, changesOf]
  · have passed : g.grant? line = none := by simp [Guideline.grant?, same]
    obtain empty | ⟨new, one⟩ := planChanges_eq c line
    · simp [empty, passed, changesOf]
    · simp [one, passed, same, changesOf]

theorem planChanges_of_blank (c : Catalog) (blank : planSubject line = "") :
    planChanges c line = [] := by
  rw [planChanges, planLine_eq, if_pos blank]

theorem changesOf_plan (hg : g ∈ c.guidelines) (lines : List String) :
    changesOf g.id (lines.flatMap (planChanges c)) =
      (lines.filter (planSubject · ≠ "")).filterMap g.grant? := by
  induction lines with
  | nil => rfl
  | cons line lines ih =>
    have split (xs ys : List (String × Category)) :
        changesOf g.id (xs ++ ys) = changesOf g.id xs ++ changesOf g.id ys := by
      simp [changesOf]
    rw [List.flatMap_cons, split, ih]
    by_cases blank : planSubject line = ""
    · simp [planChanges_of_blank c blank, blank, changesOf]
    · rw [changesOf_planChanges hg blank, List.filter_cons_of_pos (by simpa using blank),
        List.filterMap_cons]
      cases g.grant? line <;> rfl

theorem planFaults_of_blank (c : Catalog) (blank : planSubject line = "") :
    planFaults c line = [] := by
  rw [planFaults, planLine_eq, if_pos blank]

theorem planFaults_of_grant (hg : g ∈ c.guidelines) (granted : (g.grant? line).isSome = true) :
    planFaults c line = [] := by
  by_cases blank : planSubject line = ""
  · exact planFaults_of_blank c blank
  · have same := Guideline.planSubject_of_isSome_grant? granted
    have listed : c.get? (planSubject line) = some g :=
      Catalog.get?_eq_some_iff.mpr ⟨hg, same.symm⟩
    have admitted : g.admits (.ofToken (planToken line)) = true := by
      by_contra refused
      simp [Guideline.grant?, refused] at granted
    rw [planFaults, planLine_of_get?_eq_some blank listed, if_pos admitted]

theorem planFaults_of_refused (named : planSubject line ≠ "")
    (refused : ∀ g ∈ c.guidelines, g.grant? line = none) :
    ∃ f, planFaults c line = [f] ∧ f.kind = .recategorizationPlan := by
  rw [planFaults]
  cases found : c.get? (planSubject line) with
  | none =>
    exact ⟨.planGuidelineNotFound (planSubject line), by simp [planLine_eq, named, found], rfl⟩
  | some g =>
    obtain ⟨hg, same⟩ := Catalog.get?_eq_some_iff.mp found
    have unadmitted : ¬ g.admits (.ofToken (planToken line)) = true := by
      intro admitted
      have empty := refused g hg
      simp [Guideline.grant?, same, admitted] at empty
    refine ⟨refusal g line, ?_, kind_refusal g line⟩
    rw [planLine_of_get?_eq_some named found, if_neg unadmitted]

end Assessment

end GuidelineCompliance
