import GuidelineCompliance.Proofs.Headings
import GuidelineCompliance.Proofs.Outcome

/-! Recategorization plans. What a plan line comes to depends on the categories of the reference
document alone, so a plan is a list of changes and a list of faults, each in the order of the
lines, and the last change of a guideline is the one that counts. -/

namespace GuidelineCompliance

namespace Standing

def recategorizeAll (s : Standing) (cs : List Category) : Standing := cs.foldl recategorize s

theorem recategorization_recategorizeAll (s : Standing) (cs : List Category) :
    (s.recategorizeAll cs).recategorization = cs.getLast?.or s.recategorization := by
  induction cs generalizing s with
  | nil => rfl
  | cons c cs ih =>
    rw [recategorizeAll, List.foldl_cons, ← recategorizeAll, ih]
    cases cs with
    | nil => rfl
    | cons d ds => simp [List.getLast?_eq_some_getLast]

theorem status_recategorizeAll (s : Standing) (cs : List Category) :
    (s.recategorizeAll cs).status = if .disapplied ∈ cs then .disapplied else s.status := by
  induction cs generalizing s with
  | nil => rfl
  | cons c cs ih =>
    rw [recategorizeAll, List.foldl_cons, ← recategorizeAll, ih]
    by_cases hc : c = .disapplied
    · simp [recategorize, hc]
    · simp [recategorize, hc, Ne.symm hc]

theorem recategorizeAll_eq_planned {cs : List Category} (h : cs.length ≤ 1) :
    recategorizeAll {} cs = planned (recategorizeAll {} cs).recategorization := by
  match cs, h with
  | [], _ => rfl
  | [c], _ => simp [recategorizeAll, recategorize, planned]

end Standing

def changesOf (id : String) (xs : List (String × Category)) : List Category :=
  (xs.filter (·.1 = id)).map Prod.snd

namespace Catalog

def recategorizeAll (c : Catalog) (xs : List (String × Category)) : Catalog :=
  c.updateAll Prod.fst (fun x s => s.recategorize x.2) xs

theorem guidelines_recategorizeAll (c : Catalog) (xs : List (String × Category)) :
    (c.recategorizeAll xs).guidelines =
      c.guidelines.map fun g => g.update (·.recategorizeAll (changesOf g.id xs)) := by
  rw [recategorizeAll, guidelines_updateAll]
  apply List.map_congr_left
  intro g _
  simp only [Guideline.update, actOn, Standing.recategorizeAll, changesOf, List.foldl_map]

@[simp] theorem recategorizeAll_nil (c : Catalog) : c.recategorizeAll [] = c := rfl

theorem recategorizeAll_append (c : Catalog) (xs ys : List (String × Category)) :
    c.recategorizeAll (xs ++ ys) = (c.recategorizeAll xs).recategorizeAll ys := List.foldl_append

theorem map_category_get?_recategorizeAll (c : Catalog) (xs : List (String × Category))
    (id : String) :
    ((c.recategorizeAll xs).get? id).map Guideline.category =
      (c.get? id).map Guideline.category := by
  rw [recategorizeAll, get?_updateAll]
  cases c.get? id <;> rfl

end Catalog

namespace Assessment

def planChanges (c : Catalog) (line : String) : List (String × Category) :=
  match planLine c line with
  | .change id new => [(id, new)]
  | _ => []

def planFaults (c : Catalog) (line : String) : List Fault :=
  match planLine c line with
  | .faulty f => [f]
  | _ => []

def planSubject (line : String) : String := ((Text.split ',' line).map Text.trim).getD 0 ""

theorem eq_planSubject_of_change {c : Catalog} {line id : String} {new : Category}
    (h : planLine c line = .change id new) : id = planSubject line := by
  simp only [planLine] at h
  split at h
  · cases h
  · split at h
    · cases h
    · split_ifs at h
      cases h
      rfl

theorem planChanges_eq (c : Catalog) (line : String) :
    planChanges c line = [] ∨ ∃ new, planChanges c line = [(planSubject line, new)] := by
  rw [planChanges]
  cases h : planLine c line with
  | blank => exact Or.inl rfl
  | faulty f => exact Or.inl rfl
  | change id new => exact Or.inr ⟨new, by rw [eq_planSubject_of_change h]⟩

theorem length_changesOf_le (c : Catalog) (id : String) (lines : List String) :
    (changesOf id (lines.flatMap (planChanges c))).length ≤ lines.countP (planSubject · = id) := by
  induction lines with
  | nil => exact Nat.le_refl 0
  | cons line lines ih =>
    rw [List.countP_cons]
    obtain empty | ⟨new, one⟩ := planChanges_eq c line
    · rw [List.flatMap_cons, empty, List.nil_append]
      omega
    · rw [List.flatMap_cons, one]
      by_cases h : planSubject line = id
      · simpa [changesOf, h] using ih
      · simpa [changesOf, h] using ih

theorem planLine_congr {c d : Catalog}
    (h : ∀ id, (c.get? id).map Guideline.category = (d.get? id).map Guideline.category) :
    planLine c = planLine d := by
  funext line
  have same := h (planSubject line)
  simp only [planSubject] at same
  simp only [planLine]
  cases hc : c.get? _ with
  | none =>
    have hd := Option.map_eq_none_iff.mp (same.symm.trans (congrArg (Option.map _) hc))
    rw [hd]
  | some g =>
    obtain ⟨g', hd, hg⟩ := Option.map_eq_some_iff.mp
      (same.symm.trans (congrArg (Option.map _) hc))
    rw [hd]
    simp only [hg]

theorem planChanges_recategorizeAll (c : Catalog) (xs : List (String × Category)) :
    planChanges (c.recategorizeAll xs) = planChanges c := by
  funext line
  rw [planChanges, planLine_congr (Catalog.map_category_get?_recategorizeAll c xs), planChanges]

theorem planFaults_recategorizeAll (c : Catalog) (xs : List (String × Category)) :
    planFaults (c.recategorizeAll xs) = planFaults c := by
  funext line
  rw [planFaults, planLine_congr (Catalog.map_category_get?_recategorizeAll c xs), planFaults]

def applyChanges (a : Assessment) (xs : List (String × Category)) (fs : List Fault) :
    Assessment :=
  { a with
    catalog := a.catalog.recategorizeAll xs
    code := a.code.addAll fs
    faults := a.faults ++ fs }

theorem applyPlanLine_eq (a : Assessment) (line : String) :
    a.applyPlanLine line =
      a.applyChanges (planChanges a.catalog line) (planFaults a.catalog line) := by
  unfold applyPlanLine planChanges planFaults
  cases planLine a.catalog line with
  | blank => simp [applyChanges]
  | faulty f => simp [applyChanges, record, FaultCode.addAll]
  | change id new => simp [applyChanges, update, Catalog.recategorizeAll, Catalog.updateAll]

theorem applyPlan_eq (a : Assessment) (lines : List String) :
    a.applyPlan lines =
      a.applyChanges (lines.flatMap (planChanges a.catalog))
        (lines.flatMap (planFaults a.catalog)) := by
  induction lines generalizing a with
  | nil => simp [applyPlan, applyChanges]
  | cons line lines ih =>
    rw [applyPlan, List.foldl_cons, ← applyPlan, ih, applyPlanLine_eq]
    simp [applyChanges, planChanges_recategorizeAll, planFaults_recategorizeAll,
      Catalog.recategorizeAll_append, FaultCode.addAll_append]

theorem guidelines_applyPlan (a : Assessment) (lines : List String) :
    (a.applyPlan lines).catalog.guidelines = a.catalog.guidelines.map fun g =>
      g.update (·.recategorizeAll (changesOf g.id (lines.flatMap (planChanges a.catalog)))) := by
  rw [applyPlan_eq, applyChanges, Catalog.guidelines_recategorizeAll]

@[simp] theorem reader_applyPlan (a : Assessment) (lines : List String) :
    (a.applyPlan lines).reader = a.reader := by
  rw [applyPlan_eq, applyChanges]

@[simp] theorem comments_applyPlan (a : Assessment) (lines : List String) :
    (a.applyPlan lines).comments = a.comments := by
  rw [applyPlan_eq, applyChanges]

namespace Begun

variable {a : Assessment} {text : String} {lines : List String}

theorem id_ne_empty_of_mem_applyPlan (h : a.Begun text) {g : Guideline}
    (hg : g ∈ (a.applyPlan lines).catalog.guidelines) : g.id ≠ "" := by
  rw [guidelines_applyPlan] at hg
  obtain ⟨begun, hbegun, rfl⟩ := List.mem_map.mp hg
  rw [Guideline.id_update]
  exact h.id_ne_empty hbegun

theorem standing_of_mem_applyPlan (h : a.Begun text) {g : Guideline}
    (hg : g ∈ (a.applyPlan lines).catalog.guidelines) :
    g.standing =
      .recategorizeAll {} (changesOf g.id (lines.flatMap (planChanges a.catalog))) := by
  rw [guidelines_applyPlan] at hg
  obtain ⟨begun, hbegun, rfl⟩ := List.mem_map.mp hg
  rw [Guideline.id_update, Guideline.update, h.standing_eq hbegun]

theorem status_ne_violations_of_mem_applyPlan (h : a.Begun text) {g : Guideline}
    (hg : g ∈ (a.applyPlan lines).catalog.guidelines) : g.status ≠ .violations := by
  rw [Guideline.status, h.standing_of_mem_applyPlan hg, Standing.status_recategorizeAll]
  split <;> simp

theorem standing_eq_planned (h : a.Begun text)
    (once : ∀ g ∈ a.catalog.guidelines, lines.countP (planSubject · = g.id) ≤ 1) {g : Guideline}
    (hg : g ∈ (a.applyPlan lines).catalog.guidelines) :
    g.standing = .planned g.standing.recategorization := by
  have named : lines.countP (planSubject · = g.id) ≤ 1 := by
    rw [guidelines_applyPlan] at hg
    obtain ⟨begun, hbegun, rfl⟩ := List.mem_map.mp hg
    exact once begun hbegun
  have single : (changesOf g.id (lines.flatMap (planChanges a.catalog))).length ≤ 1 :=
    Nat.le_trans (length_changesOf_le a.catalog g.id lines) named
  rw [h.standing_of_mem_applyPlan hg]
  exact Standing.recategorizeAll_eq_planned single

end Begun

end Assessment

end GuidelineCompliance
