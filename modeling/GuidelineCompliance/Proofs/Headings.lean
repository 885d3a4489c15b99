import GuidelineCompliance.Analyzer.Cppcheck
import GuidelineCompliance.Assessment
import GuidelineCompliance.Proofs.Groups
import GuidelineCompliance.Proofs.Search
import GuidelineCompliance.Proofs.Trimming

/-! The guidelines of a reference document, and the assessments that begin with them. Each
guideline has an id and nothing is known about it yet. -/

namespace GuidelineCompliance

namespace Catalog

theorem canonicalId_ne_empty {id : String} (h : id ≠ "") : canonicalId id ≠ "" := by
  unfold canonicalId
  split
  · simp
  · exact h

theorem id_ofHeading_ne_empty {text : String} {m : Pattern.Match}
    (h : m ∈ headingPattern.findAll text) : (ofHeading m).id ≠ "" := by
  apply canonicalId_ne_empty
  apply Pattern.group_ne_empty (Pattern.takes_of_mem_findAllFrom h)
  · decide
  · decide

theorem eq_of_toUpper_eq {x : Char} (h : x.toUpper = 'I') : x = 'i' ∨ x = 'I' := by
  by_cases lower : 'a'.val ≤ x.val ∧ x.val ≤ 'z'.val
  · have small : x.toNat < 123 := Nat.lt_succ_of_le lower.2
    have each : ∀ n < 123, (Char.ofNat n).toUpper = 'I' →
        Char.ofNat n = 'i' ∨ Char.ofNat n = 'I' := by decide
    simpa using each x.toNat small (by simpa using h)
  · have same : x.toUpper = x := dif_neg lower
    exact Or.inr (same.symm.trans h)

theorem category_ofHeading_ne_disapplied {text : String} {m : Pattern.Match}
    (h : m ∈ headingPattern.findAll text) : (ofHeading m).category ≠ .disapplied := by
  intro disapplied
  -- Both words for it have an I, and no category word of a heading has one.
  have letter : 'I' ∈ ((Text.trim (m.group 2)).map Char.toUpper).toList := by
    simp only [ofHeading, Category.ofToken] at disapplied
    split at disapplied
    case h_7 word => rw [word]; decide
    case h_8 word => rw [word]; decide
    all_goals cases disapplied
  obtain ⟨x, hx, upper⟩ : ∃ x ∈ (Text.trim (m.group 2)).toList, x.toUpper = 'I' := by
    simpa [String.toList_map] using letter
  obtain ⟨part, listed, numbered, s, hs, mem⟩ := Pattern.mem_sets_of_mem_group
    (Pattern.takes_of_mem_findAllFrom h) (Text.mem_of_mem_trim hx)
  have free : ∀ part ∈ headingPattern.parts, part.1 = 2 → ∀ s ∈ part.2.sets,
      s.mem 'i' = false ∧ s.mem 'I' = false := by decide +kernel
  have absent := free part listed numbered s hs
  obtain rfl | rfl := eq_of_toUpper_eq upper
  · exact Bool.false_ne_true (absent.1.symm.trans mem)
  · exact Bool.false_ne_true (absent.2.symm.trans mem)

theorem mem_insert {c : Catalog} {g x : Guideline} (h : x ∈ (c.insert g).guidelines) :
    x ∈ c.guidelines ∨ x = g := by
  unfold insert at h
  split at h
  · exact Or.inl h
  · simpa using h

theorem mem_foldl_insert {gs : List Guideline} {c : Catalog} {x : Guideline}
    (h : x ∈ (gs.foldl insert c).guidelines) : x ∈ c.guidelines ∨ x ∈ gs := by
  induction gs generalizing c with
  | nil => exact Or.inl h
  | cons g gs ih =>
    obtain old | later := ih h
    · obtain old | rfl := mem_insert old
      · exact Or.inl old
      · exact Or.inr List.mem_cons_self
    · exact Or.inr (List.mem_cons_of_mem _ later)

theorem exists_heading_of_mem {text : String} {g : Guideline}
    (h : g ∈ (ofReference text).guidelines) :
    ∃ m ∈ headingPattern.findAll text, ofHeading m = g := by
  obtain empty | listed := mem_foldl_insert h
  · cases empty
  · exact List.mem_map.mp listed

theorem standing_of_mem_ofReference {text : String} {g : Guideline}
    (h : g ∈ (ofReference text).guidelines) : g.standing = {} := by
  obtain ⟨m, -, rfl⟩ := exists_heading_of_mem h
  rfl

theorem id_ne_empty_of_mem_ofReference {text : String} {g : Guideline}
    (h : g ∈ (ofReference text).guidelines) : g.id ≠ "" := by
  obtain ⟨m, hm, rfl⟩ := exists_heading_of_mem h
  exact id_ofHeading_ne_empty hm

theorem category_ne_disapplied_of_mem_ofReference {text : String} {g : Guideline}
    (h : g ∈ (ofReference text).guidelines) : g.category ≠ .disapplied := by
  obtain ⟨m, hm, rfl⟩ := exists_heading_of_mem h
  exact category_ofHeading_ne_disapplied hm

end Catalog

namespace Assessment

/-- An assessment that a run begins with, over the guidelines of a reference document. -/
structure Begun (a : Assessment) (text : String) : Prop where
  setup : ∃ s, begin s = .ok a
  catalog : a.catalog = .ofReference text

theorem nothing_found_of_begin {s : Setup} {a : Assessment} (h : begin s = .ok a) :
    a.code = .none ∧ a.faults = [] ∧ a.comments = [] := by
  obtain ⟨analyzer, edition, references, catalog, tags⟩ := s
  cases analyzer with
  | none => cases h
  | some analyzer =>
    simp only [begin] at h
    split at h
    · cases h
    · cases references with
      | none =>
        cases catalog with
        | none => cases h
        | some given => cases h; exact ⟨rfl, rfl, rfl⟩
      | some read =>
        simp only at h
        cases hr : read edition with
        | error e => rw [hr] at h; cases h
        | ok text =>
          rw [hr] at h
          cases catalog with
          | none => cases h; exact ⟨rfl, rfl, rfl⟩
          | some given => cases h; exact ⟨rfl, rfl, rfl⟩

namespace Begun

variable {a : Assessment} {text : String}

theorem code_eq (h : a.Begun text) : a.code = .none := by
  obtain ⟨s, hs⟩ := h.setup
  exact (nothing_found_of_begin hs).1

theorem faults_eq (h : a.Begun text) : a.faults = [] := by
  obtain ⟨s, hs⟩ := h.setup
  exact (nothing_found_of_begin hs).2.1

theorem comments_eq (h : a.Begun text) : a.comments = [] := by
  obtain ⟨s, hs⟩ := h.setup
  exact (nothing_found_of_begin hs).2.2

theorem standing_eq (h : a.Begun text) {g : Guideline} (hg : g ∈ a.catalog.guidelines) :
    g.standing = {} := by
  rw [h.catalog] at hg
  exact Catalog.standing_of_mem_ofReference hg

theorem id_ne_empty (h : a.Begun text) {g : Guideline} (hg : g ∈ a.catalog.guidelines) :
    g.id ≠ "" := by
  rw [h.catalog] at hg
  exact Catalog.id_ne_empty_of_mem_ofReference hg

theorem category_ne_disapplied (h : a.Begun text) {g : Guideline}
    (hg : g ∈ a.catalog.guidelines) : g.category ≠ .disapplied := by
  rw [h.catalog] at hg
  exact Catalog.category_ne_disapplied_of_mem_ofReference hg

end Begun

def cppcheckOver (text : String) : Assessment where
  tool := "Cppcheck"
  edition := .c2012
  reference := ""
  reader := Cppcheck.analyzer.reader .c2012 ""
  tags := .standard
  catalog := .ofReference text

theorem begun_cppcheckOver (text : String) : (cppcheckOver text).Begun text where
  setup := ⟨{ analyzer := some Cppcheck.analyzer, catalog := some (.ofReference text) }, rfl⟩
  catalog := rfl

end Assessment

end GuidelineCompliance
