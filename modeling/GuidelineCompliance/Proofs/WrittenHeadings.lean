import GuidelineCompliance.Proofs.GuidelineNumbers
import GuidelineCompliance.Proofs.LineMatches
import GuidelineCompliance.Proofs.Trimming

/-! Headings as a reference document writes them, and how one is read. An id has the word for a rule
or one of the two for a directive. The word for the category may be written in any letter case. -/

namespace GuidelineCompliance.Catalog

open Pattern

inductive HeadingWord where
  | rule
  | dir
  | directive

def HeadingWord.spelling : HeadingWord → String
  | rule => "Rule"
  | dir => "Dir"
  | directive => "Directive"

def HeadingWord.name : HeadingWord → String
  | rule => "Rule"
  | dir => "Directive"
  | directive => "Directive"

inductive CategoryWord where
  | req
  | adv
  | mand
  | doc
  deriving DecidableEq

namespace CategoryWord

def all : List CategoryWord := [req, adv, mand, doc]

theorem mem_all (w : CategoryWord) : w ∈ all := by
  cases w <;> decide

def letters : CategoryWord → String
  | req => "req"
  | adv => "adv"
  | mand => "mand"
  | doc => "doc"

def initial : CategoryWord → Char
  | req => 'r'
  | adv => 'a'
  | mand => 'm'
  | doc => 'd'

theorem exists_letters (w : CategoryWord) : ∃ cs, w.letters.toList = w.initial :: cs := by
  cases w <;> exact ⟨_, rfl⟩

/-- A documentation rule has no category of its own. -/
def category : CategoryWord → Category
  | req => .required
  | adv => .advisory
  | mand => .mandatory
  | doc => .unknown

end CategoryWord

structure CategoryToken where
  word : CategoryWord
  spelling : String
  anyCase : spelling.map Char.toLower = word.letters

structure WrittenHeading where
  word : HeadingWord
  number : GuidelineNumber
  token : CategoryToken

namespace WrittenHeading

def writtenId (h : WrittenHeading) : String :=
  h.word.spelling ++ " " ++ String.ofList h.number.chars

def id (h : WrittenHeading) : String := h.word.name ++ " " ++ String.ofList h.number.chars

def write (h : WrittenHeading) : String :=
  "/*** " ++ h.writtenId ++ " (" ++ h.token.spelling ++ ") ***/"

def guideline (h : WrittenHeading) : Guideline := { id := h.id, category := h.token.word.category }

theorem canonicalId_writtenId (h : WrittenHeading) : canonicalId h.writtenId = h.id := by
  obtain ⟨word, number, token⟩ := h
  cases word with
  | rule => simp [canonicalId, writtenId, id, HeadingWord.spelling, HeadingWord.name]
  | dir => simp [canonicalId, writtenId, id, HeadingWord.spelling, HeadingWord.name]
  | directive => simp [canonicalId, writtenId, id, HeadingWord.spelling, HeadingWord.name]

end WrittenHeading

theorem toLower_eq_self {x : Char} (beyond : ¬ x.toNat < 128) : x.toLower = x := by
  have large : ¬ x.val ≤ 'Z'.val := by
    rw [UInt32.le_iff_toNat_le, Char.toNat_val]
    exact fun le => beyond (Nat.lt_of_le_of_lt le (by decide))
  exact dif_neg fun h => large h.2

theorem eq_or_eq_toUpper (x : Char) : x = x.toLower ∨ x = x.toLower.toUpper := by
  by_cases ascii : x.toNat < 128
  · have table : ∀ n ∈ List.range 128, Char.ofNat n = (Char.ofNat n).toLower ∨
        Char.ofNat n = (Char.ofNat n).toLower.toUpper := by decide +kernel
    simpa using table x.toNat (List.mem_range.mpr ascii)
  · exact Or.inl (toLower_eq_self ascii).symm

namespace CategoryToken

theorem map_toLower_toList (t : CategoryToken) :
    t.spelling.toList.map Char.toLower = t.word.letters.toList := by
  rw [← t.anyCase, String.toList_map]

/-- What holds of the letters of all category words, small and capital, holds in every spelling. -/
theorem forall_mem_spelling (t : CategoryToken) {p : Char → Char → Bool}
    (h : ∀ w ∈ CategoryWord.all, w.letters.toList.all fun y => p y y && p y y.toUpper) :
    ∀ x ∈ t.spelling.toList, p x.toLower x = true := fun x hx => by
  have letter : x.toLower ∈ t.word.letters.toList := by
    rw [← t.map_toLower_toList]
    exact List.mem_map_of_mem hx
  have both := List.all_eq_true.mp (h t.word t.word.mem_all) x.toLower letter
  obtain ⟨small, capital⟩ := Bool.and_eq_true_iff.mp both
  obtain same | same := eq_or_eq_toUpper x
  · exact (congrArg (p x.toLower) same).trans small
  · exact (congrArg (p x.toLower) same).trans capital

theorem ofToken_spelling (t : CategoryToken) : Category.ofToken t.spelling = t.word.category := by
  have dark : ∀ x ∈ t.spelling.toList, (!Text.isBlank x) = true :=
    t.forall_mem_spelling (p := fun _ x => !Text.isBlank x) (by decide +kernel)
  have trimmed : Text.trim t.spelling = t.spelling :=
    Text.trim_of_forall fun x hx => by simpa using dark x hx
  have capitals : t.spelling.map Char.toUpper = t.word.letters.map Char.toUpper := by
    rw [← String.toList_inj, String.toList_map, String.toList_map, ← t.map_toLower_toList,
      List.map_map]
    have upper : ∀ x ∈ t.spelling.toList, (x.toUpper == x.toLower.toUpper) = true :=
      t.forall_mem_spelling (p := fun y x => x.toUpper == y.toUpper) (by decide +kernel)
    exact List.map_congr_left fun x hx => beq_iff_eq.mp (upper x hx)
  rw [Category.ofToken, trimmed, capitals]
  cases t.word <;> decide +kernel

end CategoryToken

section Read

variable {α : Type} {k : Follow α} {c d : Cursor} {caps : Captures} {r : α}

def wordPattern : Pattern :=
  .any [.lit "Rule", .all [.lit "Dir", opt true (.lit "ective")]]

theorem run_word_of_leads (word : HeadingWord) (h : Leads c word.spelling.toList d)
    (next : d.rest.head? = some ' ') (done : k d caps = some r) :
    run wordPattern k c caps = some r := by
  have whole : run (lit word.spelling) k c caps = some r := run_lit_eq_some.mpr ⟨d, h, done⟩
  rw [wordPattern, run_any_cons]
  cases word with
  | rule =>
    rw [HeadingWord.spelling] at whole
    rw [whole, Option.some_or]
  | dir =>
    have short : run (opt true (lit "ective")) k d caps = some r := by
      rw [run_opt, run_lit_eq_none (x := 'e') rfl (by simp [next]), Option.none_or, done]
    rw [run_lit_eq_none (x := 'R') rfl (by simp [h.rest, HeadingWord.spelling]), Option.none_or]
    exact run_lit_eq_some.mpr ⟨d, h, short⟩
  | directive =>
    have parts : Leads c ("Dir".toList ++ "ective".toList) d := h
    obtain ⟨e, first, second⟩ := parts.exists_between
    have long : run (opt true (lit "ective")) k e caps = some r := by
      rw [run_opt, run_lit_eq_some.mpr ⟨d, second, done⟩, Option.some_or]
    rw [run_lit_eq_none (x := 'R') rfl (by simp [h.rest, HeadingWord.spelling]), Option.none_or]
    exact run_lit_eq_some.mpr ⟨e, first, long⟩

theorem run_letters_of_leads {cs : List Char}
    (either : ∀ x ∈ cs, (CharSet.anyCase (.char x.toLower)).mem x = true) (h : Leads c cs d)
    (done : k d caps = some r) :
    run (all ((cs.map Char.toLower).map fun y => .set (.anyCase (.char y)))) k c caps = some r := by
  induction cs generalizing c with
  | nil =>
    obtain rfl := h.unique (.refl c)
    exact done
  | cons x cs ih =>
    obtain ⟨e, one, later⟩ := h.exists_step
    rw [List.map_cons, List.map_cons, run_all_cons, run_set_of_leads one,
      if_pos (either x List.mem_cons_self)]
    exact ih (fun y hy => either y (List.mem_cons_of_mem x hy)) later

theorem run_otherWord_eq_none (t : CategoryToken) {w : CategoryWord} (other : w ≠ t.word)
    (h : Leads c t.spelling.toList d) : run (anyCaseWord w.letters) k c caps = none := by
  have refused : ∀ v ∈ CategoryWord.all, ∀ w ∈ CategoryWord.all, w ≠ v →
      (CharSet.anyCase (.char w.initial)).mem v.initial = false ∧
        (CharSet.anyCase (.char w.initial)).mem v.initial.toUpper = false := by decide +kernel
  obtain ⟨small, capital⟩ := refused t.word t.word.mem_all w w.mem_all other
  obtain ⟨own, letters⟩ := t.word.exists_letters
  obtain ⟨x, cs, spelled, lower, -⟩ := List.map_eq_cons_iff.mp (t.map_toLower_toList.trans letters)
  have outside : (CharSet.anyCase (.char w.initial)).mem x = false := by
    obtain same | same := eq_or_eq_toUpper x
    · rwa [same, lower]
    · rwa [same, lower]
  rw [spelled] at h
  obtain ⟨e, one, -⟩ := h.exists_step
  obtain ⟨rest, letters'⟩ := w.exists_letters
  rw [anyCaseWord, letters', List.map_cons, run_all_cons, run_set_of_leads one, outside]
  rfl

theorem run_token_of_leads (t : CategoryToken) (h : Leads c t.spelling.toList d)
    (done : k d caps = some r) :
    run (any (["req", "adv", "mand", "doc"].map anyCaseWord)) k c caps = some r := by
  have either : ∀ x ∈ t.spelling.toList, (CharSet.anyCase (.char x.toLower)).mem x = true :=
    t.forall_mem_spelling (p := fun y x => (CharSet.anyCase (.char y)).mem x) (by decide +kernel)
  have own : run (anyCaseWord t.word.letters) k c caps = some r := by
    rw [anyCaseWord, ← t.map_toLower_toList]
    exact run_letters_of_leads either h done
  have words : ["req", "adv", "mand", "doc"].map anyCaseWord =
      CategoryWord.all.map fun w => anyCaseWord w.letters := rfl
  rw [words]
  refine run_any_of_mem (List.mem_map_of_mem t.word.mem_all) (fun q hq => ?_) own
  obtain ⟨w, -, rfl⟩ := List.mem_map.mp hq
  by_cases same : w = t.word
  · exact Or.inl (same ▸ rfl)
  · exact Or.inr (run_otherWord_eq_none t same h)

def idPattern : Pattern := .all [wordPattern, .char ' ', numberPattern]

theorem run_id_of_leads (h : WrittenHeading) (leads : Leads c h.writtenId.toList d)
    (next : d.rest.head? = some ' ') (done : k d caps = some r) :
    run idPattern k c caps = some r := by
  have text : h.writtenId.toList = h.word.spelling.toList ++ ([' '] ++ h.number.chars) := by
    simp [WrittenHeading.writtenId]
  rw [text] at leads
  obtain ⟨c₁, word, leads⟩ := leads.exists_between
  obtain ⟨c₂, blank, number⟩ := leads.exists_between
  have read : run numberPattern k c₂ caps = some r :=
    run_number_of_leads h.number number next (by decide) (by decide) done
  rw [idPattern, run_all_cons]
  refine run_word_of_leads h.word word (by simp [blank.rest]) ?_
  rw [run_all_cons]
  exact run_char_eq_some.mpr ⟨c₂, blank, read⟩

theorem headingPattern_eq : headingPattern =
    .all [.char '/', many1 (.char '*'), .char ' ', .capture 1 idPattern, many1 (.char ' '),
      .char '(', .capture 2 (.any (["req", "adv", "mand", "doc"].map anyCaseWord)), .char ')',
      many1 (.char ' '), .char '*'] := rfl

theorem exists_matchAt_heading (h : WrittenHeading) (start : c.rest = h.write.toList) :
    ∃ m, headingPattern.matchAt c = some m ∧ m.span.stop.rest = "**/".toList ∧
      m.group 1 = h.writtenId ∧ m.group 2 = h.token.spelling := by
  have text : h.write.toList =
      ['/'] ++ ("***".toList ++ ([' '] ++ (h.writtenId.toList ++ ([' '] ++ (['('] ++
        (h.token.spelling.toList ++ ([')'] ++ ([' '] ++ (['*'] ++ "**/".toList))))))))) := by
    simp [WrittenHeading.write]
  rw [text] at start
  obtain ⟨c₁, slash, rest⟩ := Leads.exists_of_rest start
  obtain ⟨c₂, stars, rest⟩ := Leads.exists_of_rest rest
  obtain ⟨c₃, blank₁, rest⟩ := Leads.exists_of_rest rest
  obtain ⟨c₄, id, rest⟩ := Leads.exists_of_rest rest
  obtain ⟨c₅, blank₂, rest⟩ := Leads.exists_of_rest rest
  obtain ⟨c₆, bracket, rest⟩ := Leads.exists_of_rest rest
  obtain ⟨c₇, token, rest⟩ := Leads.exists_of_rest rest
  obtain ⟨c₈, close, rest⟩ := Leads.exists_of_rest rest
  obtain ⟨c₉, blank₃, rest⟩ := Leads.exists_of_rest rest
  obtain ⟨d, star, rest⟩ := Leads.exists_of_rest rest
  have one {x : Char} : ∀ y ∈ [x], (CharSet.char x).mem y = true := by simp
  have three : ∀ y ∈ "***".toList, (CharSet.char '*').mem y = true := by simp
  refine ⟨⟨⟨c, d⟩, [(2, ⟨c₆, c₇⟩), (1, ⟨c₃, c₄⟩)]⟩, ?_, rest, id.text_toList, token.text_toList⟩
  rw [matchAt, headingPattern_eq, run_all_cons]
  refine run_char_eq_some.mpr ⟨c₁, slash, ?_⟩
  rw [run_all_cons]
  refine run_many1_of_leads (by decide) stars three (stop_of_leads blank₁ rfl (by decide)) ?_
  rw [run_all_cons]
  refine run_char_eq_some.mpr ⟨c₃, blank₁, ?_⟩
  rw [run_all_cons, run_capture]
  refine run_id_of_leads h id (by simp [blank₂.rest]) ?_
  rw [run_all_cons]
  refine run_many1_of_leads (by decide) blank₂ one (stop_of_leads bracket rfl (by decide)) ?_
  rw [run_all_cons]
  refine run_char_eq_some.mpr ⟨c₆, bracket, ?_⟩
  rw [run_all_cons, run_capture]
  refine run_token_of_leads h.token token ?_
  rw [run_all_cons]
  refine run_char_eq_some.mpr ⟨c₈, close, ?_⟩
  rw [run_all_cons]
  refine run_many1_of_leads (by decide) blank₃ one (stop_of_leads star rfl (by decide)) ?_
  exact run_char_eq_some.mpr ⟨d, star, rfl⟩

theorem prefix_of_matchAt_heading {m : Pattern.Match} (h : headingPattern.matchAt c = some m) :
    "/*".toList <+: c.rest := by
  rw [matchAt, headingPattern_eq, run_all_cons] at h
  obtain ⟨d, slash, h⟩ := run_char_eq_some.mp h
  rw [run_all_cons] at h
  obtain ⟨x, head, star⟩ := exists_head_of_run_many1 h
  obtain ⟨rest, split⟩ := List.head?_eq_some_iff.mp head
  obtain rfl : x = '*' := by simpa using star
  exact ⟨rest, by simp [slash.rest, split]⟩

theorem findFrom_heading_eq_none (h : c.rest = "**/".toList) :
    headingPattern.findFrom c = none := by
  rw [Option.eq_none_iff_forall_ne_some]
  intro m found
  obtain ⟨passed, leads, here, -⟩ := exists_leads_of_findFrom found
  obtain ⟨rest, split⟩ := prefix_of_matchAt_heading here
  have inside : "/*".toList <:+: "**/".toList := ⟨passed, rest, by
    rw [List.append_assoc, split, ← leads.rest, h]⟩
  exact absurd inside (by decide)

end Read

def headings (text : String) : List Guideline := (headingPattern.findAll text).map ofHeading

theorem headings_write (h : WrittenHeading) : headings h.write = [h.guideline] := by
  obtain ⟨m, found, rest, id, token⟩ :=
    exists_matchAt_heading h (Cursor.rest_ofText h.write.toList)
  have whole : Finds headingPattern (.ofText h.write.toList) [m] :=
    .cons (findFrom_of_matchAt found) (.nil (findFrom_heading_eq_none rest))
  have text : headingPattern.takesText = true := by decide
  rw [headings, (finds_findAll text h.write).unique whole, List.map_singleton, ofHeading, id, token,
    h.canonicalId_writtenId, h.token.ofToken_spelling]
  rfl

example : (WrittenHeading.mk .dir (.two ⟨['4'], by decide⟩ ⟨['1'], by decide⟩)
    ⟨.req, "Req", by decide +kernel⟩).write = "/*** Dir 4.1 (Req) ***/" := by decide +kernel

end GuidelineCompliance.Catalog
