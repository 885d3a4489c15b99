import GuidelineCompliance.Proofs.LogText
import GuidelineCompliance.Proofs.Protection
import GuidelineCompliance.Proofs.Separators

/-! What the summary tells. Each of its two sentences begins with the only capital letter in it, so
a sentence stands in the summary only where the summary has written it. That there were none of a
kind is said of the guidelines in the counted categories, and every guideline is in one of these
unless it came without a category and no plan gave it one. -/

namespace GuidelineCompliance

namespace Text

theorem prefix_of_infix_cons_append_cons {x : Char} {q as bs : List Char} (free : x ∉ q)
    (first : x ∉ as) (second : x ∉ bs) (h : x :: q <:+: x :: as ++ x :: bs) :
    q <+: as ∨ q <+: bs := by
  have absent {cs : List Char} (free : x ∉ cs) : ¬ x :: q <:+: cs :=
    fun within => free (within.subset List.mem_cons_self)
  obtain front | later := List.infix_cons_iff.mp h
  · left
    have front : q <+: as ++ x :: bs := (List.cons_prefix_cons.mp front).2
    exact prefix_of_prefix_append_cons free front
  · right
    induction as with
    | nil =>
      obtain front | later := List.infix_cons_iff.mp later
      · exact (List.cons_prefix_cons.mp front).2
      · exact absurd later (absent second)
    | cons a as ih =>
      obtain front | later := List.infix_cons_iff.mp later
      · exact absurd (List.cons_prefix_cons.mp front).1 (List.ne_of_not_mem_cons first)
      · exact ih (List.not_mem_of_not_mem_cons first) (List.infix_cons later) later

end Text

namespace Summary

open Text

def parts (c : Catalog) (status : Status) : List String :=
  counted.filterMap fun (category, word) =>
    let n := count c status category
    if n = 0 then none else some (countText n word)

theorem sentence_eq (c : Catalog) (status : Status) (noun : String) :
    sentence c status noun =
      if (parts c status).isEmpty then "There were no " ++ noun ++ "."
      else "There were " ++ noun ++ " of " ++ joinList (parts c status) ++ "." := rfl

theorem parts_eq_nil_iff (c : Catalog) (status : Status) :
    parts c status = [] ↔
      ∀ g ∈ c.guidelines, g.status = status → g.activeCategory ∉ counted.map Prod.fst := by
  have empty (category : Category) : count c status category = 0 ↔
      ∀ g ∈ c.guidelines, g.status = status → g.activeCategory ≠ category := by
    simp [count, List.countP_eq_zero]
  have each (category : Category) (word : String) :
      (if count c status category = 0 then none
        else some (countText (count c status category) word)) = none ↔
          ∀ g ∈ c.guidelines, g.status = status → g.activeCategory ≠ category := by
    rw [← empty category]
    split <;> simp_all
  rw [parts, List.filterMap_eq_nil_iff]
  constructor
  · intro left g hg held listed
    obtain ⟨⟨category, word⟩, mem, same⟩ := List.mem_map.mp listed
    exact (each category word).mp (left _ mem) g hg held same.symm
  · rintro free ⟨category, word⟩ mem
    exact (each category word).mpr fun g hg held same =>
      free g hg held (same ▸ List.mem_map.mpr ⟨_, mem, rfl⟩)

theorem capital_not_mem_part {c : Catalog} {status : Status} {part : String}
    (h : part ∈ parts c status) : 'T' ∉ part.toList := by
  obtain ⟨⟨category, word⟩, mem, text⟩ := List.mem_filterMap.mp h
  have words : ∀ entry ∈ counted, 'T' ∉ entry.2.toList := by decide
  have gap : 'T' ∉ " ".toList := by decide
  have ends (n : Nat) : 'T' ∉ (if n = 1 then " guideline" else " guidelines").toList := by
    split <;> decide
  simp only at text
  split at text
  · cases text
  · obtain rfl := Option.some.inj text
    simp only [countText, String.toList_append, List.mem_append, not_or]
    exact ⟨⟨⟨not_mem_repr (by decide) _, gap⟩, words _ mem⟩, ends _⟩

/-- How a sentence that there were none goes on behind its first letter. -/
def denial (noun : String) : List Char := ("here were no " ++ noun ++ ".").toList

def counting (noun : String) : List Char := ("here were " ++ noun ++ " of ").toList

theorem toList_denial (noun : String) :
    ("There were no " ++ noun ++ ".").toList = 'T' :: denial noun := by
  simp [denial]

def nouns : List String := ["violations", "deviations"]

structure Tail (c : Catalog) (status : Status) (noun : String) (tail : List Char) : Prop where
  text : (sentence c status noun).toList = 'T' :: tail
  lower : 'T' ∉ tail
  denies : parts c status = [] → tail = denial noun
  counts : parts c status ≠ [] → counting noun <+: tail

theorem exists_tail (c : Catalog) (status : Status) {noun : String} (h : noun ∈ nouns) :
    ∃ tail, Tail c status noun tail := by
  have lower : 'T' ∉ noun.toList := by
    have each : ∀ n ∈ nouns, 'T' ∉ n.toList := by decide
    exact each noun h
  by_cases empty : parts c status = []
  · refine ⟨denial noun, ?_, by simp [denial, lower], fun _ => rfl, absurd empty⟩
    rw [sentence_eq, if_pos (by simp [empty]), toList_denial]
  · have listed : 'T' ∉ (joinList (parts c status)).toList :=
      (not_mem_joinList_iff (by decide) (by decide) _).mpr fun _ => capital_not_mem_part
    refine ⟨counting noun ++ (joinList (parts c status) ++ ".").toList, ?_, ?_,
      fun nothing => absurd nothing empty, fun _ => List.prefix_append _ _⟩
    · rw [sentence_eq, if_neg (by simp [empty])]
      simp [counting]
    · simp [counting, lower, listed]

/-- The sentence on a status is the only one that begins with the words that deny it. -/
theorem Tail.of_prefix {c : Catalog} {status : Status} {noun noun' : String} {tail more : List Char}
    (t : Tail c status noun tail) (h : noun ∈ nouns) (h' : noun' ∈ nouns)
    (denies : denial noun' <+: tail ++ more) : noun' = noun ∧ parts c status = [] := by
  by_cases empty : parts c status = []
  · have apart : ∀ n ∈ nouns, ∀ n' ∈ nouns, denial n <+: denial n' → n = n' := by decide
    have lengths : ∀ n ∈ nouns, (denial n).length = 24 := by decide
    rw [t.denies empty] at denies
    refine ⟨apart noun' h' noun h ?_, empty⟩
    refine List.prefix_of_prefix_length_le denies (List.prefix_append _ more) ?_
    rw [lengths noun h, lengths noun' h']
  · have apart : ∀ n ∈ nouns, ∀ n' ∈ nouns, ¬ counting n <+: denial n' := by decide
    have lengths : ∀ n ∈ nouns, ∀ n' ∈ nouns, (counting n).length ≤ (denial n').length := by decide
    have counts : counting noun <+: tail ++ more :=
      (t.counts empty).trans (List.prefix_append _ more)
    exact absurd (List.prefix_of_prefix_length_le counts denies (lengths noun h noun' h'))
      (apart noun h noun' h')

theorem exists_tails (c : Catalog) :
    ∃ as bs, Tail c .violations "violations" as ∧ Tail c .deviations "deviations" bs ∧
      c.summary.toList = 'T' :: (as ++ [' ']) ++ 'T' :: bs := by
  have first : "violations" ∈ nouns := by decide
  have second : "deviations" ∈ nouns := by decide
  obtain ⟨as, hv⟩ := exists_tail c .violations first
  obtain ⟨bs, hd⟩ := exists_tail c .deviations second
  exact ⟨as, bs, hv, hd, by simp [Catalog.summary, hv.text, hd.text]⟩

theorem denies_iff (c : Catalog) :
    (("There were no violations.".toList <:+: c.summary.toList) ↔ parts c .violations = []) ∧
      (("There were no deviations.".toList <:+: c.summary.toList) ↔ parts c .deviations = []) := by
  have first : "violations" ∈ nouns := by decide
  have second : "deviations" ∈ nouns := by decide
  obtain ⟨as, bs, hv, hd, text⟩ := exists_tails c
  have found {noun : String} (h : noun ∈ nouns)
      (said : ("There were no " ++ noun ++ ".").toList <:+: c.summary.toList) :
      noun = "violations" ∧ parts c .violations = [] ∨
        noun = "deviations" ∧ parts c .deviations = [] := by
    have free : 'T' ∉ denial noun := by
      have each : ∀ n ∈ nouns, 'T' ∉ denial n := by decide
      exact each noun h
    have lower : 'T' ∉ as ++ [' '] := by simp [hv.lower]
    rw [toList_denial, text] at said
    obtain inFirst | inSecond := prefix_of_infix_cons_append_cons free lower hd.lower said
    · exact Or.inl (hv.of_prefix first h inFirst)
    · exact Or.inr (hd.of_prefix second h (inSecond.trans (List.prefix_append bs [])))
  constructor
  · constructor
    · intro said
      obtain ⟨-, empty⟩ | ⟨same, -⟩ := found first said
      · exact empty
      · exact absurd same (by decide)
    · intro empty
      exact ⟨[], ' ' :: 'T' :: bs, by rw [text, hv.denies empty]; rfl⟩
  · constructor
    · intro said
      obtain ⟨same, -⟩ | ⟨-, nothing⟩ := found second said
      · exact absurd same (by decide)
      · exact nothing
    · intro nothing
      exact ⟨'T' :: (as ++ [' ']), [], by rw [text, hd.denies nothing]; simp [denial]⟩

end Summary

namespace Standing

def Pinned (s : Standing) : Prop := s.recategorization = some .disapplied → s.status = .disapplied

theorem Pinned.recategorizeAll {s : Standing} (h : s.Pinned) (cs : List Category) :
    (s.recategorizeAll cs).Pinned := by
  intro disapplied
  rw [recategorization_recategorizeAll, Option.or_eq_some_iff] at disapplied
  rw [status_recategorizeAll]
  obtain last | ⟨-, before⟩ := disapplied
  · exact if_pos (List.mem_of_getLast? last)
  · rw [h before, ite_self]

theorem Pinned.takeAll {s : Standing} (h : s.Pinned) (es : List Evidence) :
    (s.takeAll es).Pinned := by
  intro disapplied
  rw [recategorization_takeAll] at disapplied
  have applied : s.isDisapplied = true := by simp [isDisapplied, disapplied]
  rw [status_takeAll_of_isDisapplied applied, h disapplied, ite_self]

end Standing

namespace Assessment

variable {a b : Assessment} {text : String}

theorem Step.pinned (h : Step a b) (pinned : ∀ g ∈ a.catalog.guidelines, g.standing.Pinned) :
    ∀ g ∈ b.catalog.guidelines, g.standing.Pinned := by
  obtain ⟨xs, fs, rfl⟩ | ⟨o, rfl⟩ := h.eq_applyChanges_or_extend
  · rw [applyChanges, Catalog.guidelines_recategorizeAll, List.forall_mem_map]
    exact fun g hg => (pinned g hg).recategorizeAll _
  · rw [extend, Catalog.guidelines_takeAll, List.forall_mem_map]
    exact fun g hg => (pinned g hg).takeAll _

theorem Reaches.pinned (h : Reaches a b) (pinned : ∀ g ∈ a.catalog.guidelines, g.standing.Pinned) :
    ∀ g ∈ b.catalog.guidelines, g.standing.Pinned := by
  induction h with
  | start => exact pinned
  | step _ last ih => exact last.pinned ih

theorem Begun.counted_iff (h : a.Begun text) (reached : Reaches a b) {g : Guideline}
    (hg : g ∈ b.catalog.guidelines) (found : g.status ≠ .disapplied) :
    g.activeCategory ∈ Summary.counted.map Prod.fst ↔
      ¬ (g.category = .unknown ∧ g.standing.recategorization = none) := by
  have start : ∀ x ∈ a.catalog.guidelines, x.standing.Pinned := fun x hx => by
    rw [h.standing_eq hx]
    exact nofun
  have fresh : ∀ x ∈ a.catalog.guidelines, x.standing.recategorization = none := fun x hx => by
    rw [h.standing_eq hx]
  have applied : g.activeCategory ≠ .disapplied := by
    rw [Guideline.activeCategory]
    cases given : g.standing.recategorization with
    | none =>
      obtain ⟨first, hfirst, later⟩ := reached.succeeds hg
      rw [Option.getD_none, later.category]
      exact h.category_ne_disapplied hfirst
    | some new =>
      rintro rfl
      exact found (reached.pinned start g hg given)
  constructor
  · rintro listed ⟨original, given⟩
    rw [Guideline.activeCategory, given, Option.getD_none, original] at listed
    exact absurd listed (by decide)
  · intro categorized
    have known : g.activeCategory ≠ .unknown := fun unknown =>
      categorized (reached.category_eq_unknown fresh hg unknown)
    cases active : g.activeCategory with
    | mandatory => decide
    | required => decide
    | advisory => decide
    | disapplied => exact absurd active applied
    | unknown => exact absurd active known

/-- The summary denies violations, or deviations, exactly if there are none but of guidelines that
have no category. -/
theorem summary_denies_iff (h : a.Begun text) (reached : Reaches a b) :
    ("There were no violations.".toList <:+: b.summary.toList ↔
      ∀ g ∈ b.catalog.guidelines, g.status = .violations →
        g.category = .unknown ∧ g.standing.recategorization = none) ∧
    ("There were no deviations.".toList <:+: b.summary.toList ↔
      ∀ g ∈ b.catalog.guidelines, g.status = .deviations →
        g.category = .unknown ∧ g.standing.recategorization = none) := by
  have each {status : Status} (found : status ≠ .disapplied) : Summary.parts b.catalog status = [] ↔
      ∀ g ∈ b.catalog.guidelines, g.status = status →
        g.category = .unknown ∧ g.standing.recategorization = none := by
    rw [Summary.parts_eq_nil_iff]
    refine forall₃_congr fun g hg held => ?_
    rw [h.counted_iff reached hg (held ▸ found), not_not]
  obtain ⟨violations, deviations⟩ := Summary.denies_iff b.catalog
  exact ⟨violations.trans (each (by decide)), deviations.trans (each (by decide))⟩

theorem summary_denies_of_unknown_violation :
    let text := "/*** Rule 1.1 (doc) ***//*** Rule 1.2 (adv) ***/"
    let source := "// cppcheck-suppress misra-c2012-1.2 DEVIATION(D1)"
    let b := ((cppcheckOver text).ingest (.warnings ["[a.c:1] loop [misra-c2012-1.1]"])).ingest
      (.sources ["a.c"] fun _ => .ok source)
    Reaches (cppcheckOver text) b ∧
      b.catalog.guidelines.map Guideline.status = [.violations, .deviations] ∧
      "There were no violations.".toList <:+: b.summary.toList ∧
      ¬ "There were no deviations.".toList <:+: b.summary.toList := by
  intro text source b
  have reached : Reaches (cppcheckOver text) b :=
    .step (.step .start (.ingest _ _)) (.ingest _ _)
  obtain ⟨violations, deviations⟩ := summary_denies_iff (begun_cppcheckOver text) reached
  let facts (g : Guideline) := (g.status, g.category, g.standing.recategorization)
  have all : b.catalog.guidelines.map facts =
      [(.violations, .unknown, none), (.deviations, .advisory, none)] := by
    decide +kernel
  have each (P : Status × Category × Option Category → Prop) :
      (∀ g ∈ b.catalog.guidelines, P (facts g)) ↔ P (.violations, .unknown, none) ∧
        P (.deviations, .advisory, none) := by
    rw [← List.forall_mem_map, all]
    simp
  refine ⟨reached, ?_, violations.mpr ?_, deviations.not.mpr ?_⟩
  · simpa [facts, Function.comp_def] using congrArg (List.map Prod.fst) all
  · exact (each fun (s, c, r) => s = .violations → c = .unknown ∧ r = none).mpr (by decide)
  · exact (each fun (s, c, r) => s = .deviations → c = .unknown ∧ r = none).not.mpr (by decide)

/-- The summary does not count a guideline that has no category, and so denies its violation. -/
theorem not_forall_summary_denies :
    ¬ ∀ (a b : Assessment) (text : String), a.Begun text → Reaches a b →
      ("There were no violations.".toList <:+: b.summary.toList ↔
        ∀ g ∈ b.catalog.guidelines, g.status ≠ .violations) := by
  intro denies
  have silent := denies _ _ _ (begun_cppcheckOver "/*** Rule 1.1 (doc) ***/")
    (.step .start (.ingest _ (.warnings ["[a.c:1] loop [misra-c2012-1.1]"])))
  exact absurd silent (by decide +kernel)

end Assessment

end GuidelineCompliance
