import GuidelineCompliance.Analyzer.Cppcheck
import GuidelineCompliance.Proofs.Numerals
import GuidelineCompliance.Proofs.WordRuns

/-! Rule numbers. Warnings and suppression comments of Cppcheck name a rule by the number behind
`misra-c2012-`. In a comment a full stop divides the number. In a warning any character but a line
feed may divide it, so a warning can name a rule that there is not. -/

namespace GuidelineCompliance.Cppcheck

open Pattern
open Text (Digits)

def ruleMark : List Char := "misra-c2012-".toList

theorem openMark_eq : "[misra-c2012-".toList = '[' :: ruleMark := rfl

def Divided (mid : Char) (number : List Char) : Prop :=
  ∃ major minor, Digits major ∧ Digits minor ∧ number = major ++ mid :: minor

def NamesRule (mid : Char) (text id : String) : Prop :=
  ∃ number, Divided mid number ∧ id = ruleId (String.ofList number) ∧
    ruleMark ++ number <:+: text.toList

variable {mid : Char} {number : List Char} {c : Cursor} {m : Match}

theorem Divided.eq_of_mem (h : Divided mid number) {x : Char} (mem : x ∈ number)
    (other : Text.isDigit x = false) : x = mid := by
  obtain ⟨major, minor, first, second, rfl⟩ := h
  simpa [first.not_mem other, second.not_mem other] using mem

theorem NamesRule.eq_of_mem {text id : String} (h : NamesRule mid text id) {x : Char}
    (mem : x ∈ id.toList) (word : x ∉ "Rule ".toList) (other : Text.isDigit x = false) :
    x = mid := by
  obtain ⟨number, divided, rfl, -⟩ := h
  simp only [ruleId, String.toList_append, String.toList_ofList, List.mem_append] at mem
  exact divided.eq_of_mem (mem.resolve_left word) other

theorem NamesRule.mem {text id : String} (h : NamesRule mid text id) : mid ∈ id.toList := by
  obtain ⟨number, ⟨major, minor, -, -, rfl⟩, rfl, -⟩ := h
  simp [ruleId]

theorem exists_number_of_run {α : Type} {k : Follow α} {caps : Captures} {r : α} {s : CharSet}
    (h : run (all [many1 .digit, .set s, many1 .digit]) k c caps = some r) :
    ∃ mid number d, s.mem mid = true ∧ Divided mid number ∧ Leads c number d ∧
      k d caps = some r := by
  rw [run_all_cons] at h
  obtain ⟨major, c₁, nonempty, first, digits, h⟩ := exists_leads_of_run_many1 h
  rw [run_all_cons] at h
  obtain ⟨mid, c₂, mem, second, h⟩ := run_set_eq_some.mp h
  obtain ⟨minor, d, nonempty', third, digits', done⟩ := exists_leads_of_run_many1 h
  refine ⟨mid, major ++ mid :: minor, d, mem,
    ⟨major, minor, ⟨nonempty, digits⟩, ⟨nonempty', digits'⟩, rfl⟩, ?_, done⟩
  simpa using (first.trans second).trans third

theorem exists_number_of_matchAt_rule (h : rulePattern.matchAt c = some m) :
    ∃ number, Divided '.' number ∧ m.group 1 = String.ofList number ∧
      Leads c (ruleMark ++ number) m.span.stop := by
  rw [matchAt, rulePattern, run_all_cons] at h
  obtain ⟨c₁, marked, h⟩ := run_lit_eq_some.mp h
  obtain ⟨mid, number, d, mem, divided, leads, done⟩ := exists_number_of_run h
  obtain rfl : mid = '.' := by simpa using mem
  cases done
  exact ⟨number, divided, leads.text, marked.trans leads⟩

def place (file line : List Char) : List Char := '[' :: (file ++ ':' :: (line ++ [']']))

def ruleTag (number : List Char) : List Char := '[' :: (ruleMark ++ (number ++ [']']))

/-- The parts of a warning: a place, a text that opens no bracket, and a rule number. -/
structure WarningParts (m : Match) (file line front number : List Char) : Prop where
  noColon : ':' ∉ file
  digits : Digits line
  noOpen : '[' ∉ front
  divided : ∃ mid, mid ≠ '\n' ∧ Divided mid number
  file_eq : m.group 1 = String.ofList file
  line_eq : m.group 2 = String.ofList line
  number_eq : m.group 3 = String.ofList number
  through : Leads m.span.start (place file line ++ (front ++ ruleTag number)) m.span.stop

theorem exists_parts_of_matchAt_warning (h : warningPattern.matchAt c = some m) :
    ∃ file line front number, WarningParts m file line front number := by
  rw [matchAt, warningPattern, run_all_cons] at h
  obtain ⟨c₁, open₁, h⟩ := run_char_eq_some.mp h
  rw [run_all_cons, run_capture] at h
  obtain ⟨file, c₂, first, noColon, h⟩ := exists_leads_of_run_many h
  rw [run_all_cons] at h
  obtain ⟨c₃, colon, h⟩ := run_char_eq_some.mp h
  rw [run_all_cons, run_capture] at h
  obtain ⟨line, c₄, nonempty, second, digits, h⟩ := exists_leads_of_run_many1 h
  rw [run_all_cons] at h
  obtain ⟨c₅, close₁, h⟩ := run_char_eq_some.mp h
  rw [run_all_cons] at h
  obtain ⟨front, c₆, third, noOpen, h⟩ := exists_leads_of_run_many h
  rw [run_all_cons] at h
  obtain ⟨c₇, marked, h⟩ := run_lit_eq_some.mp h
  rw [run_all_cons, run_capture] at h
  obtain ⟨mid, number, c₈, mem, divided, fourth, h⟩ := exists_number_of_run h
  obtain ⟨d, close₂, done⟩ := run_char_eq_some.mp h
  cases done
  have whole := (((((((open₁.trans first).trans colon).trans second).trans close₁).trans
    third).trans marked).trans fourth).trans close₂
  refine ⟨file, line, front, number, ?_⟩
  exact {
    noColon := fun mem => by simpa using noColon _ mem
    digits := ⟨nonempty, digits⟩
    noOpen := fun mem => by simpa using noOpen _ mem
    divided := ⟨mid, by simpa using mem, divided⟩
    file_eq := first.text
    line_eq := second.text
    number_eq := fourth.text
    through := by
      rw [openMark_eq] at whole
      simpa only [place, ruleTag, List.append_assoc, List.cons_append, List.nil_append] using
        whole }

theorem namesRule_of_mem_guidelines {comment id : String} {ids : List String}
    (h : guidelines comment = some ids) (hid : id ∈ ids) : NamesRule '.' comment id := by
  rw [guidelines, Option.some.injEq] at h
  subst h
  obtain ⟨m, found, rfl⟩ := Option.map_eq_some_iff.mp (Option.mem_toList.mp hid)
  obtain ⟨passed, reaches, here, -⟩ := exists_leads_of_findFrom found
  obtain ⟨number, divided, read, leads⟩ := exists_number_of_matchAt_rule here
  exact ⟨number, divided, by rw [read], passed, m.span.stop.rest, (reaches.trans leads).rest.symm⟩

theorem exists_namesRule_of_mem_violations {line : String} {v : Violation}
    (h : v ∈ violations line) : ∃ mid, mid ≠ '\n' ∧ NamesRule mid line v.guideline := by
  obtain ⟨m, found, rfl⟩ := Option.map_eq_some_iff.mp (Option.mem_toList.mp h)
  obtain ⟨passed, reaches, here, -⟩ := exists_leads_of_findFrom found
  obtain ⟨file, digits, front, number, parts⟩ := exists_parts_of_matchAt_warning here
  obtain ⟨mid, noFeed, divided⟩ := parts.divided
  refine ⟨mid, noFeed, number, divided, by rw [parts.number_eq], ?_⟩
  refine ⟨passed ++ (place file digits ++ (front ++ ['['])), ']' :: m.span.stop.rest, ?_⟩
  have whole := (reaches.trans parts.through).rest
  simpa [ruleTag, Cursor.rest_ofText] using whole.symm

/-- An id that is read stands in the text, as two runs of digits with a character between them. In a
comment that character is a full stop. In a warning it may be another one, and exactly then the id
has not the form of a rule. -/
theorem namesRule_of_read (text : String) :
    (∀ ids, guidelines text = some ids → ∀ id ∈ ids, NamesRule '.' text id) ∧
      ∀ v ∈ violations text, ∃ mid, mid ≠ '\n' ∧ NamesRule mid text v.guideline ∧
        (NamesRule '.' text v.guideline ↔ mid = '.') := by
  refine ⟨fun ids read id hid => namesRule_of_mem_guidelines read hid, fun v hv => ?_⟩
  obtain ⟨mid, noFeed, names⟩ := exists_namesRule_of_mem_violations hv
  refine ⟨mid, noFeed, names, fun stop => ?_, ?_⟩
  · exact (names.eq_of_mem stop.mem (by decide) (by decide)).symm
  · rintro rfl
    exact names

theorem namesRule_of_read_of_hyphen :
    let comment := "cppcheck misra-c2012-13.11; Something irrelevant here"
    let dotted := "[a.c:36]: (style) misra violation [misra-c2012-15.6]"
    let hyphened := "[a.c:36]: (style) misra violation [misra-c2012-15-6]"
    (guidelines comment = some ["Rule 13.11"] ∧ NamesRule '.' comment "Rule 13.11") ∧
      (violations dotted = [⟨"a.c", 36, "Rule 15.6"⟩] ∧ NamesRule '.' dotted "Rule 15.6") ∧
      violations hyphened = [⟨"a.c", 36, "Rule 15-6"⟩] ∧ NamesRule '-' hyphened "Rule 15-6" ∧
        ¬ NamesRule '.' hyphened "Rule 15-6" := by
  intro comment dotted hyphened
  have suppressed : guidelines comment = some ["Rule 13.11"] := by decide +kernel
  have reported : violations dotted = [⟨"a.c", 36, "Rule 15.6"⟩] := by decide +kernel
  have reported' : violations hyphened = [⟨"a.c", 36, "Rule 15-6"⟩] := by decide +kernel
  obtain ⟨mid, -, names, -⟩ := (namesRule_of_read dotted).2 _ (reported ▸ List.mem_cons_self)
  obtain ⟨mid', -, names', stop⟩ :=
    (namesRule_of_read hyphened).2 _ (reported' ▸ List.mem_cons_self)
  obtain rfl : '.' = mid := names.eq_of_mem (by decide) (by decide) (by decide)
  obtain rfl : '-' = mid' := names'.eq_of_mem (by decide) (by decide) (by decide)
  have named := (namesRule_of_read comment).1 _ suppressed _ List.mem_cons_self
  exact ⟨⟨suppressed, named⟩, ⟨reported, names⟩, reported', names',
    fun dotted => absurd (stop.mp dotted) (by decide)⟩

/-- A warning with a hyphen in its number names a rule that there is not. -/
theorem not_forall_namesRule :
    ¬ ∀ text, (∀ ids, guidelines text = some ids → ∀ id ∈ ids, NamesRule '.' text id) ∧
      ∀ v ∈ violations text, NamesRule '.' text v.guideline := by
  intro all
  let line := "[a.c:36]: (style) misra violation [misra-c2012-15-6]"
  have read : violations line = [⟨"a.c", 36, "Rule 15-6"⟩] := by decide +kernel
  have names := (all line).2 _ (read ▸ List.mem_cons_self)
  exact absurd names.mem (by decide)

end GuidelineCompliance.Cppcheck
