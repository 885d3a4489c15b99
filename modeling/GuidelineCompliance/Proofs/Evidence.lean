import GuidelineCompliance.Guideline

/-! Evidence on one guideline, and what it makes of the guideline's standing. The standing after
any evidence has a closed form: violations dominate deviations, a plan that disapplies the
guideline dominates both, and only the deviations ahead of the first violation are kept. -/

namespace GuidelineCompliance

/-- A violation that the analyzer reports, a suppression without a tag, or a deviation. -/
inductive Evidence where
  | warning
  | violation
  | deviation (d : Deviation)
  deriving DecidableEq, Repr

namespace Evidence

def isViolation : Evidence → Bool
  | warning => true
  | violation => true
  | deviation _ => false

def deviation? : Evidence → Option Deviation
  | deviation d => some d
  | _ => none

/-- The deviations ahead of the first violation. -/
def openDeviations (es : List Evidence) : List Deviation :=
  (es.takeWhile fun e => !e.isViolation).filterMap deviation?

@[simp] theorem isSome_deviation? (e : Evidence) : e.deviation?.isSome = !e.isViolation := by
  cases e <;> rfl

theorem eq_deviation_of_isViolation_eq_false {e : Evidence} (h : e.isViolation = false) :
    ∃ d, e = deviation d := by
  cases e with
  | warning => cases h
  | violation => cases h
  | deviation d => exact ⟨d, rfl⟩

theorem openDeviations_cons_of_isViolation {e : Evidence} (h : e.isViolation = true)
    (es : List Evidence) : openDeviations (e :: es) = [] := by
  simp [openDeviations, h]

theorem openDeviations_cons_deviation (d : Deviation) (es : List Evidence) :
    openDeviations (deviation d :: es) = d :: openDeviations es := by
  simp [openDeviations, isViolation, deviation?]

end Evidence

attribute [ext] Standing

namespace Standing

open Evidence

def take (s : Standing) : Evidence → Standing
  | .warning => if s.isDisapplied then s else s.recordViolation
  | .violation => s.recordViolation
  | .deviation d => s.recordDeviation d

def takeAll (s : Standing) (es : List Evidence) : Standing := es.foldl take s

@[simp] theorem takeAll_nil (s : Standing) : s.takeAll [] = s := rfl

@[simp] theorem takeAll_cons (s : Standing) (e : Evidence) (es : List Evidence) :
    s.takeAll (e :: es) = (s.take e).takeAll es := rfl

theorem take_of_isDisapplied {s : Standing} (h : s.isDisapplied = true) (e : Evidence) :
    s.take e = if e = .warning then s else { s with status := .disapplied } := by
  cases e <;> simp [take, recordViolation, recordDeviation, deviationOutcome, h]

theorem take_of_isViolation {s : Standing} (h : s.isDisapplied = false) {e : Evidence}
    (he : e.isViolation = true) : s.take e = { s with status := .violations } := by
  cases e with
  | warning => simp [take, recordViolation, h]
  | violation => simp [take, recordViolation, h]
  | deviation d => cases he

theorem take_deviation_of_violations {s : Standing} (h : s.isDisapplied = false)
    (hs : s.status = .violations) (d : Deviation) : s.take (.deviation d) = s := by
  simp [take, recordDeviation, deviationOutcome, h, hs]

theorem take_deviation {s : Standing} (h : s.isDisapplied = false) (hs : s.status ≠ .violations)
    (d : Deviation) : s.take (.deviation d) =
      { s with status := .deviations, deviations := s.deviations ++ [d] } := by
  simp [take, recordDeviation, deviationOutcome, h, hs]

theorem status_take_ne_disapplied {s : Standing} (h : s.isDisapplied = false) (e : Evidence) :
    (s.take e).status ≠ .disapplied := by
  cases he : e.isViolation with
  | true => simp [take_of_isViolation h he]
  | false =>
    obtain ⟨d, rfl⟩ := eq_deviation_of_isViolation_eq_false he
    by_cases hs : s.status = .violations
    · simp [take_deviation_of_violations h hs, hs]
    · simp [take_deviation h hs]

@[simp] theorem recategorization_take (s : Standing) (e : Evidence) :
    (s.take e).recategorization = s.recategorization := by
  cases hd : s.isDisapplied with
  | true =>
    rw [take_of_isDisapplied hd]
    split <;> rfl
  | false =>
    cases he : e.isViolation with
    | true => rw [take_of_isViolation hd he]
    | false =>
      obtain ⟨d, rfl⟩ := eq_deviation_of_isViolation_eq_false he
      by_cases hs : s.status = .violations
      · rw [take_deviation_of_violations hd hs]
      · rw [take_deviation hd hs]

@[simp] theorem recategorization_takeAll (s : Standing) (es : List Evidence) :
    (s.takeAll es).recategorization = s.recategorization := by
  induction es generalizing s with
  | nil => rfl
  | cons e es ih => rw [takeAll_cons, ih, recategorization_take]

@[simp] theorem isDisapplied_take (s : Standing) (e : Evidence) :
    (s.take e).isDisapplied = s.isDisapplied := by
  rw [isDisapplied, recategorization_take, isDisapplied]

theorem status_takeAll_of_isDisapplied {s : Standing} (h : s.isDisapplied = true)
    (es : List Evidence) : (s.takeAll es).status =
      if es.all (· = .warning) then s.status else .disapplied := by
  induction es generalizing s with
  | nil => rfl
  | cons e es ih =>
    rw [takeAll_cons, ih (by simpa using h), take_of_isDisapplied h]
    by_cases he : e = .warning <;> simp [he]

theorem deviations_takeAll_of_isDisapplied {s : Standing} (h : s.isDisapplied = true)
    (es : List Evidence) : (s.takeAll es).deviations = s.deviations := by
  induction es generalizing s with
  | nil => rfl
  | cons e es ih =>
    rw [takeAll_cons, ih (by simpa using h), take_of_isDisapplied h]
    split <;> rfl

/-- A single violation decides the status, wherever it stands in the evidence. -/
theorem status_takeAll {s : Standing} (h : s.isDisapplied = false) (es : List Evidence) :
    (s.takeAll es).status =
      if es.any isViolation then .violations
      else if es = [] ∨ s.status = .violations then s.status
      else .deviations := by
  induction es generalizing s with
  | nil => simp
  | cons e es ih =>
    rw [takeAll_cons, ih (by simpa using h)]
    cases he : e.isViolation with
    | true => simp [take_of_isViolation h he, he]
    | false =>
      obtain ⟨d, rfl⟩ := eq_deviation_of_isViolation_eq_false he
      by_cases hs : s.status = .violations
      · simp [take_deviation_of_violations h hs, hs, he]
      · simp [take_deviation h hs, hs, he]

theorem status_takeAll_eq_violations_iff {s : Standing} (h : s.isDisapplied = false)
    (hs : s.status ≠ .violations) (es : List Evidence) :
    (s.takeAll es).status = .violations ↔ es.any isViolation = true := by
  rw [status_takeAll h]
  cases es.any isViolation with
  | true => simp
  | false => by_cases hes : es = [] <;> simp [hs, hes]

theorem deviations_takeAll {s : Standing} (h : s.isDisapplied = false) (es : List Evidence) :
    (s.takeAll es).deviations =
      if s.status = .violations then s.deviations else s.deviations ++ openDeviations es := by
  induction es generalizing s with
  | nil => simp [openDeviations]
  | cons e es ih =>
    rw [takeAll_cons, ih (by simpa using h)]
    cases e with
    | warning =>
      rw [take_of_isViolation h rfl, openDeviations_cons_of_isViolation rfl]
      simp
    | violation =>
      rw [take_of_isViolation h rfl, openDeviations_cons_of_isViolation rfl]
      simp
    | deviation d =>
      rw [openDeviations_cons_deviation]
      by_cases hs : s.status = .violations
      · simp [take_deviation_of_violations h hs, hs]
      · simp [take_deviation h hs, hs]

theorem status_takeAll_congr (s : Standing) {es fs : List Evidence} (h : ∀ e, e ∈ es ↔ e ∈ fs) :
    (s.takeAll es).status = (s.takeAll fs).status := by
  have hnil : es = [] ↔ fs = [] := by
    simp only [List.eq_nil_iff_forall_not_mem, h]
  have hany : es.any isViolation = fs.any isViolation := by
    rw [Bool.eq_iff_iff]
    simp only [List.any_eq_true, h]
  have hall : es.all (· = .warning) = fs.all (· = .warning) := by
    rw [Bool.eq_iff_iff]
    simp only [List.all_eq_true, h]
  cases hd : s.isDisapplied with
  | true => rw [status_takeAll_of_isDisapplied hd, status_takeAll_of_isDisapplied hd, hall]
  | false => simp only [status_takeAll hd, hany, hnil]

/-- The standing that a plan and the evidence after it come to, for a guideline that was found
compliant before. -/
def conclude (recategorization : Option Category) (es : List Evidence) : Standing :=
  if recategorization = some .disapplied then { recategorization, status := .disapplied }
  else
    { recategorization
      status :=
        if es.any isViolation then .violations
        else if es.any (·.deviation?.isSome) then .deviations
        else .compliant
      deviations := openDeviations es }

def planned (recategorization : Option Category) : Standing :=
  { recategorization
    status := if recategorization = some .disapplied then .disapplied else .compliant }

theorem takeAll_planned (recategorization : Option Category) (es : List Evidence) :
    (planned recategorization).takeAll es = conclude recategorization es := by
  have status_ne : (planned recategorization).status ≠ .violations := by
    simp only [planned]
    split <;> simp
  by_cases hr : recategorization = some .disapplied
  · have hd : (planned recategorization).isDisapplied = true := by simp [planned, isDisapplied, hr]
    rw [conclude, if_pos hr]
    ext1
    · exact recategorization_takeAll _ es
    · rw [status_takeAll_of_isDisapplied hd]
      simp [planned, hr]
    · exact deviations_takeAll_of_isDisapplied hd es
  · have hd : (planned recategorization).isDisapplied = false := by
      simp [planned, isDisapplied, hr]
    rw [conclude, if_neg hr]
    ext1
    · exact recategorization_takeAll _ es
    · rw [status_takeAll hd]
      simp only [planned, if_neg hr, isSome_deviation?]
      cases hv : es.any isViolation with
      | true => rfl
      | false =>
        cases es with
        | nil => rfl
        | cons e es =>
          have he : e.isViolation = false := by simp_all
          simp [he]
    · rw [deviations_takeAll hd, if_neg status_ne]
      rfl

end Standing

end GuidelineCompliance
