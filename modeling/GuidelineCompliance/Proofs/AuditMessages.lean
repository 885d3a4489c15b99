import GuidelineCompliance.Proofs.Ingestion
import GuidelineCompliance.Proofs.Lists

/-! The messages of the audit log. A message on a violation or a deviation names one guideline and
one category, so it can be told from the log which guidelines the kept comments hold against
themselves and which they deviate from. -/

namespace GuidelineCompliance

theorem Category.name_inj {c d : Category} (h : c.name = d.name) : c = d := by
  cases c <;> cases d <;> first | rfl | exact absurd h (by decide)

def Catalog.categoryOf (catalog : Catalog) (id : String) : Category :=
  ((catalog.get? id).map Guideline.activeCategory).getD .unknown

theorem Catalog.categoryOf_id {catalog : Catalog} {g : Guideline} (h : g ∈ catalog.guidelines) :
    catalog.categoryOf g.id = g.activeCategory := by
  rw [categoryOf, get?_eq_some_iff.mpr ⟨h, rfl⟩]
  rfl

namespace AuditEntry

def subject (id : String) (c : Category) : String := id ++ " (" ++ c.name ++ ")"

def violationMessage (id : String) (c : Category) : String := "Violation of " ++ subject id c

def deviationMessage (id : String) (c : Category) : String := "Deviation of " ++ subject id c

def falsePositiveMessage (id : String) (c : Category) : String :=
  "Suppression of " ++ subject id c ++ " tagged as false positive"

def messages (es : List AuditEntry) : List String := es.map message

theorem subject_inj {id id' : String} {c c' : Category} :
    subject id c = subject id' c' ↔ id = id' ∧ c = c' := by
  constructor
  · intro h
    have chars : (id.toList ++ [' ']) ++ '(' :: (c.name.toList ++ [')']) =
        (id'.toList ++ [' ']) ++ '(' :: (c'.name.toList ++ [')']) := by
      simpa [subject] using congrArg String.toList h
    -- No category has a bracket in its name, so the last bracket ends the id.
    have free (c : Category) : '(' ∉ c.name.toList ++ [')'] := by
      cases c <;> decide
    obtain ⟨ids, names⟩ := eq_of_append_cons_eq chars (free c) (free c')
    exact ⟨String.toList_inj.mp (List.append_cancel_right ids),
      Category.name_inj (String.toList_inj.mp (List.append_cancel_right names))⟩
  · rintro ⟨rfl, rfl⟩
    rfl

theorem violationMessage_inj {id id' : String} {c c' : Category} :
    violationMessage id c = violationMessage id' c' ↔ id = id' ∧ c = c' :=
  (String.append_right_inj _).trans subject_inj

theorem deviationMessage_inj {id id' : String} {c c' : Category} :
    deviationMessage id c = deviationMessage id' c' ↔ id = id' ∧ c = c' :=
  (String.append_right_inj _).trans subject_inj

/-- Which kind of finding a message is about can be told from its first letter. -/
def letter (message : String) : Option Char := message.toList.head?

theorem letter_append {m : String} {x : Char} (h : letter m = some x) (rest : String) :
    letter (m ++ rest) = some x := by
  simp only [letter] at h
  simp [letter, List.head?_append, h]

@[simp] theorem letter_violationMessage (id : String) (c : Category) :
    letter (violationMessage id c) = some 'V' :=
  letter_append (by decide) _

@[simp] theorem letter_deviationMessage (id : String) (c : Category) :
    letter (deviationMessage id c) = some 'D' :=
  letter_append (by decide) _

@[simp] theorem letter_falsePositiveMessage (id : String) (c : Category) :
    letter (falsePositiveMessage id c) = some 'S' :=
  letter_append (letter_append (by decide) _) _

@[simp] theorem letter_nonMisraFinding (tool : String) (ids : List String) :
    letter (nonMisraFinding tool ids).2 = some 'T' := by
  have start : letter "Tool suppression comment tagged as not MISRA relevant" = some 'T' := by
    decide +kernel
  simp only [nonMisraFinding]
  split
  · exact start
  · have named := letter_append (letter_append start ", but ") tool
    exact letter_append (letter_append named _) _

theorem finding?_map_snd (s : Suppression) (c : Category) :
    (finding? s c).map Prod.snd =
      match s.evidence? with
      | none => some (falsePositiveMessage s.guideline c)
      | some (.deviation _) => some (deviationMessage s.guideline c)
      | some _ => if c = .disapplied then none else some (violationMessage s.guideline c) := by
  cases hf : s.mark.isFalsePositive with
  | true =>
    simp only [finding?, Suppression.evidence?, hf, if_true, Option.map_some]
    rfl
  | false =>
    cases hd : s.mark.isDeviation with
    | true =>
      simp only [finding?, Suppression.evidence?, hf, hd, if_true, Bool.false_eq_true, if_false,
        Option.map_some]
      rfl
    | false =>
      simp only [finding?, Suppression.evidence?, hf, hd, Bool.false_eq_true, if_false]
      split <;> rfl

theorem ne_of_letter_ne {m m' : String} (h : letter m ≠ letter m') : m ≠ m' :=
  fun same => h (congrArg letter same)

theorem finding?_eq_violation_iff {s : Suppression} {c c' : Category} {id : String} :
    (finding? s c).map Prod.snd = some (violationMessage id c') ↔
      s.guideline = id ∧ s.evidence? = some .violation ∧ c ≠ .disapplied ∧ c = c' := by
  have falsePositive : falsePositiveMessage s.guideline c ≠ violationMessage id c' :=
    ne_of_letter_ne (by simp)
  have deviation : deviationMessage s.guideline c ≠ violationMessage id c' :=
    ne_of_letter_ne (by simp)
  rw [finding?_map_snd]
  cases he : s.evidence? with
  | none => simp [falsePositive]
  | some e =>
    cases e with
    | warning => exact absurd he s.evidence?_ne_warning
    | violation => by_cases hc : c = .disapplied <;> simp [hc, violationMessage_inj]
    | deviation d => simp [deviation]

theorem finding?_eq_deviation_iff {s : Suppression} {c c' : Category} {id : String} :
    (finding? s c).map Prod.snd = some (deviationMessage id c') ↔
      s.guideline = id ∧ (∃ d, s.evidence? = some (.deviation d)) ∧ c = c' := by
  have falsePositive : falsePositiveMessage s.guideline c ≠ deviationMessage id c' :=
    ne_of_letter_ne (by simp)
  have violation : violationMessage s.guideline c ≠ deviationMessage id c' :=
    ne_of_letter_ne (by simp)
  rw [finding?_map_snd]
  cases he : s.evidence? with
  | none => simp [falsePositive]
  | some e =>
    cases e with
    | warning => exact absurd he s.evidence?_ne_warning
    | violation => by_cases hc : c = .disapplied <;> simp [hc, violation]
    | deviation d => simp [deviationMessage_inj]

section Log

variable {tool : String} {catalog : Catalog} {cs : List Comment} {m : String}

theorem messages_ofComment (k : Comment) :
    messages (ofComment tool catalog k) =
      if k.isNonMisra then [(nonMisraFinding tool k.guidelines).2]
      else k.suppressions.filterMap fun s =>
        (finding? s (catalog.categoryOf s.guideline)).map Prod.snd := by
  simp only [messages, ofComment, List.map_map]
  cases hn : k.isNonMisra with
  | true => simp
  | false =>
    simp only [Bool.false_eq_true, if_false, List.map_filterMap]
    congr

theorem mem_messages_iff :
    m ∈ messages (ofComments tool catalog cs) ↔ ∃ k ∈ cs,
      (k.isNonMisra = true ∧ (nonMisraFinding tool k.guidelines).2 = m) ∨
        (k.isNonMisra = false ∧ ∃ s ∈ k.suppressions,
          (finding? s (catalog.categoryOf s.guideline)).map Prod.snd = some m) := by
  have each (k : Comment) : (ofComment tool catalog k).map message =
      messages (ofComment tool catalog k) := rfl
  rw [messages, ofComments, List.map_flatMap, List.mem_flatMap]
  apply exists_congr
  intro k
  rw [each, messages_ofComment]
  apply and_congr_right
  intro _
  cases hn : k.isNonMisra with
  | true => simp [eq_comm]
  | false => simp [List.mem_filterMap]

/-- The log has a message on a violation of a guideline exactly when a kept comment is evidence of
one and the guideline is not disapplied. -/
theorem violationMessage_mem_iff {id : String} {c : Category} :
    violationMessage id c ∈ messages (ofComments tool catalog cs) ↔
      catalog.categoryOf id = c ∧ c ≠ .disapplied ∧ ∃ k ∈ cs, ⟨id, .violation⟩ ∈ k.findings := by
  have other (ids : List String) : (nonMisraFinding tool ids).2 ≠ violationMessage id c :=
    ne_of_letter_ne (by simp)
  simp only [mem_messages_iff, other, and_false, false_or, finding?_eq_violation_iff,
    Comment.mem_findings_iff]
  constructor
  · rintro ⟨k, hk, kept, s, hs, rfl, he, applied, rfl⟩
    exact ⟨rfl, applied, k, hk, kept, s, hs, rfl, he⟩
  · rintro ⟨rfl, applied, k, hk, kept, s, hs, rfl, he⟩
    exact ⟨k, hk, kept, s, hs, rfl, he, applied, rfl⟩

theorem deviationMessage_mem_iff {id : String} {c : Category} :
    deviationMessage id c ∈ messages (ofComments tool catalog cs) ↔
      catalog.categoryOf id = c ∧ ∃ k ∈ cs, ∃ d, ⟨id, .deviation d⟩ ∈ k.findings := by
  have other (ids : List String) : (nonMisraFinding tool ids).2 ≠ deviationMessage id c :=
    ne_of_letter_ne (by simp)
  simp only [mem_messages_iff, other, and_false, false_or, finding?_eq_deviation_iff,
    Comment.mem_findings_iff]
  constructor
  · rintro ⟨k, hk, kept, s, hs, rfl, ⟨d, he⟩, rfl⟩
    exact ⟨rfl, k, hk, d, kept, s, hs, rfl, he⟩
  · rintro ⟨rfl, k, hk, d, kept, s, hs, rfl, he⟩
    exact ⟨k, hk, kept, s, hs, rfl, ⟨d, he⟩, rfl⟩

end Log

end AuditEntry

end GuidelineCompliance
