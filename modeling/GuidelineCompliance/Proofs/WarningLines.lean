import GuidelineCompliance.Proofs.Numerals
import GuidelineCompliance.Proofs.WarningScanning

/-! Warning lines. A line counts as a warning if the first bracket that opens behind its message
code is the one of a reference, and then all references on the line are read, also in its file
name. -/

namespace GuidelineCompliance.PcLint

open Pattern
open Text (Digits digits_toString isDigit_of_ascii readNumber_toString)

theorem noOpen_severityWord : ∀ v ∈ severityWords, '[' ∉ v.toList := by decide

structure WrittenWarning where
  file : String
  line : Nat
  severity : String
  code : String
  message : String
  references : List WrittenReference

namespace WrittenWarning

structure Proper (w : WrittenWarning) : Prop where
  file : ∀ x ∈ w.file.toList, x ≠ '(' ∧ x ≠ '\n'
  line : w.line < 18446744073709551616
  severity : w.severity ∈ severityWords
  code : w.code ≠ ""
  digits : ∀ x ∈ w.code.toList, x.isDigit = true
  message : ¬ mark <:+: w.message.toList
  nonempty : w.references ≠ []
  references : ∀ r ∈ w.references, r.Proper

def write (w : WrittenWarning) : String :=
  w.file ++ "(" ++ toString w.line ++ "): " ++ w.severity ++ " " ++ w.code ++ ": " ++ w.message ++
    WrittenReference.writeAll w.references

def intro (w : WrittenWarning) : List Char :=
  ['('] ++ ((toString w.line).toList ++ ("): ".toList ++ (w.severity.toList ++
    ([' '] ++ (w.code.toList ++ ": ".toList)))))

theorem toList_write (w : WrittenWarning) :
    w.write.toList =
      w.file.toList ++ (w.intro ++ (w.message.toList ++
        (WrittenReference.writeAll w.references).toList)) := by
  simp [write, intro]

variable {w : WrittenWarning}

theorem Proper.digits_code (proper : w.Proper) : Digits w.code.toList where
  nonempty := fun empty => proper.code (String.toList_eq_nil_iff.mp empty)
  digit := fun x hx => isDigit_of_ascii (proper.digits x hx)

theorem noOpen_intro (severity : w.severity ∈ severityWords) (code : Digits w.code.toList) :
    '[' ∉ w.intro := by
  have line : '[' ∉ (toString w.line).toList := (digits_toString w.line).not_mem (by decide)
  simp only [intro, List.mem_append, not_or]
  exact ⟨by decide, line, by decide, noOpen_severityWord _ severity, by decide,
    code.not_mem (by decide), by decide⟩

theorem Proper.noOpen_intro (proper : w.Proper) : '[' ∉ w.intro :=
  WrittenWarning.noOpen_intro proper.severity proper.digits_code

end WrittenWarning

def introPatterns : List Pattern :=
  [char '(', .capture 2 (many1 .digit), lit "): ", anyOf severityWords, char ' ', many1 .digit,
    lit ": "]

def firstReference : List Pattern :=
  [lit "[MISRA ", anyOf? editionWords, many (.noneOf [',', ']']), anyOf? categoryWords, char ']']

theorem firstReference_eq : firstReference = bracketPatterns (many (.noneOf [',', ']'])) := rfl

theorem messagePattern_eq : messagePattern =
    all (.anchor .textStart :: .capture 1 (few (.noneOf ['\n'])) ::
      (introPatterns ++ (many (.noneOf ['[']) :: firstReference))) := rfl

section Read

variable {α : Type} {c d : Cursor} {m : Match} {w : WrittenWarning}

theorem run_textStart_eq_some {k : Follow α} {caps : Captures} {r : α} :
    run (.anchor .textStart) k c caps = some r ↔ c.before = none ∧ k c caps = some r := by
  simp [run_anchor_eq_some, Anchor.holds]

theorem run_intro (severity : w.severity ∈ severityWords) (code : Digits w.code.toList)
    (h : Leads c w.intro d) : ∃ s : Span, s.text = toString w.line ∧
      ∀ (k : Follow α) caps r, k d ((2, s) :: caps) = some r →
        run (all introPatterns) k c caps = some r := by
  obtain ⟨c₁, first, h⟩ := h.exists_between
  obtain ⟨c₂, line, h⟩ := h.exists_between
  obtain ⟨c₃, third, h⟩ := h.exists_between
  obtain ⟨c₄, fourth, h⟩ := h.exists_between
  obtain ⟨c₅, fifth, h⟩ := h.exists_between
  obtain ⟨c₆, sixth, last⟩ := h.exists_between
  refine ⟨⟨c₁, c₂⟩, line.text_toList, fun k caps r done => ?_⟩
  rw [introPatterns, run_all_cons]
  refine run_char_eq_some.mpr ⟨c₁, first, ?_⟩
  rw [run_all_cons, run_capture]
  have number := digits_toString w.line
  refine run_many1_of_leads number.nonempty line number.digit
    (stop_of_leads third rfl (by decide)) ?_
  rw [run_all_cons]
  refine run_lit_eq_some.mpr ⟨c₃, third, ?_⟩
  rw [run_all_cons]
  refine run_anyOf_of_leads (by decide) severity fourth ?_
  rw [run_all_cons]
  refine run_char_eq_some.mpr ⟨c₅, fifth, ?_⟩
  rw [run_all_cons]
  refine run_many1_of_leads code.nonempty sixth code.digit (stop_of_leads last rfl (by decide)) ?_
  exact run_lit_eq_some.mpr ⟨d, last, done⟩

theorem run_firstReference {r : WrittenReference} (readable : r.Readable)
    (h : Leads c (r.opening ++ [']']) d) {k : Follow α} {caps : Captures} {x : α}
    (done : k d caps = some x) : run (all firstReference) k c caps = some x := by
  simp only [WrittenReference.opening, List.append_assoc] at h
  obtain ⟨c₁, first, h⟩ := h.exists_between
  obtain ⟨c₂, edition, h⟩ := h.exists_between
  obtain ⟨c₃, id, last⟩ := h.exists_between
  have stop := stop_of_category readable.category ⟨d.rest, last.rest.symm⟩
  rw [firstReference, run_all_cons]
  refine run_lit_eq_some.mpr ⟨c₁, first, ?_⟩
  rw [run_all_cons]
  refine run_edition readable.edition edition (fun empty w hw there => ?_) ?_
  · exact readable.plain empty w hw (edition_prefix_of_prefix_append hw stop (id.rest ▸ there))
  rw [run_all_cons]
  refine run_many_of_leads id (fun x hx => mem_bare_iff.mpr (readable.bare x hx)) stop ?_
  exact run_categoryToEnd readable.category last done

theorem exists_matchAt_message (severity : w.severity ∈ severityWords)
    (code : Digits w.code.toList) (noParen : '(' ∉ w.file.toList) (noFeed : '\n' ∉ w.file.toList)
    {message rest : List Char} (free : '[' ∉ message) (begins : BeginsReference rest)
    (start : c.before = none) (hc : c.rest = w.file.toList ++ (w.intro ++ (message ++ rest))) :
    ∃ m, messagePattern.matchAt c = some m ∧ m.group 1 = w.file ∧ m.group 2 = toString w.line := by
  obtain ⟨c₁, file, h₁⟩ := Leads.exists_of_rest hc
  obtain ⟨c₂, intro, h₂⟩ := Leads.exists_of_rest h₁
  obtain ⟨c₃, third, rfl⟩ := Leads.exists_of_rest h₂
  obtain ⟨m, -, r, readable, -, reference⟩ := exists_matchAt_of_beginsReference begins
  obtain ⟨s, line, read⟩ := run_intro severity code intro
  refine ⟨⟨⟨c, m.span.stop⟩, [(2, s), (1, ⟨c, c₁⟩)]⟩, ?_, ?_, ?_⟩
  · rw [matchAt, messagePattern_eq, run_all_cons]
    refine run_textStart_eq_some.mpr ⟨start, ?_⟩
    rw [run_all_cons, run_capture]
    refine run_few_of_leads file (forall_mem_noneOf.mpr noFeed) (fun u e hu short => ?_) ?_
    · rw [run_all_append, introPatterns, run_all_cons]
      obtain ⟨behind, split, later⟩ := hu.between file (Nat.le_of_lt short)
      refine run_char_eq_none fun y hy same => noParen ?_
      cases behind with
      | nil => simp [split] at short
      | cons x behind =>
        obtain rfl : x = y := by simpa [later.rest] using hy
        simp [split, same]
    · rw [run_all_append]
      refine read _ _ _ ?_
      rw [run_all_cons]
      refine run_many_of_leads third (forall_mem_noneOf.mpr free)
        (stop_of_leads reference rfl (by decide)) ?_
      exact run_firstReference readable reference rfl
  · exact file.text_toList
  · simpa [Match.group, Match.group?, Match.span?] using line

theorem exists_find?_message (proper : w.Proper) (free : '[' ∉ w.message.toList) :
    ∃ m, messagePattern.find? w.write = some m ∧ m.group 1 = w.file ∧
      m.group 2 = toString w.line := by
  obtain ⟨r, rs, refs⟩ := List.exists_cons_of_ne_nil proper.nonempty
  have begins : BeginsReference (WrittenReference.writeAll w.references).toList := by
    rw [refs, WrittenReference.toList_writeAll_cons, List.append_cons]
    exact (proper.references r (refs ▸ List.mem_cons_self)).readable.begins (List.prefix_append _ _)
  obtain ⟨m, found, read⟩ := exists_matchAt_message proper.severity proper.digits_code
    (fun mem => (proper.file _ mem).1 rfl) (fun mem => (proper.file _ mem).2 rfl) free begins rfl
    ((Cursor.rest_ofText _).trans w.toList_write)
  exact ⟨m, findFrom_of_matchAt found, read⟩

theorem matchAt_of_findFrom_textStart {p : Pattern} {ps : List Pattern} {cs : List Char}
    (shape : p = all (.anchor .textStart :: ps)) (h : p.findFrom (.ofText cs) = some m) :
    p.matchAt (.ofText cs) = some m := by
  obtain ⟨passed, leads, found, -⟩ := exists_leads_of_findFrom h
  have start : m.span.start.before = none := by
    rw [matchAt, shape, run_all_cons] at found
    exact (run_textStart_eq_some.mp found).1
  obtain rfl : passed = [] := by
    rw [leads.before] at start
    simpa [Cursor.ofText] using start
  rw [leads.unique (.refl _)] at found
  exact found

theorem findFrom_textStart_eq {p : Pattern} {ps : List Pattern}
    (shape : p = all (.anchor .textStart :: ps)) (cs : List Char) :
    p.findFrom (.ofText cs) = p.matchAt (.ofText cs) := by
  cases found : p.findFrom (.ofText cs) with
  | none => exact (matchAt_of_findFrom_eq_none found (.refl _)).symm
  | some m => exact (matchAt_of_findFrom_textStart shape found).symm

theorem exists_leads_of_run_intro {k : Follow α} {caps : Captures} {r : α}
    (h : run (all introPatterns) k c caps = some r) :
    ∃ front s d, '[' ∉ front ∧ Leads c front d ∧ k d ((2, s) :: caps) = some r := by
  rw [introPatterns, run_all_cons] at h
  obtain ⟨c₁, opened, h⟩ := run_char_eq_some.mp h
  rw [run_all_cons, run_capture] at h
  obtain ⟨line, c₂, -, second, lineDigits, h⟩ := exists_leads_of_run_many1 h
  rw [run_all_cons] at h
  obtain ⟨c₃, third, h⟩ := run_lit_eq_some.mp h
  rw [run_all_cons] at h
  obtain ⟨severity, listed, c₄, fourth, h⟩ := exists_leads_of_run_anyOf h
  rw [run_all_cons] at h
  obtain ⟨c₅, fifth, h⟩ := run_char_eq_some.mp h
  rw [run_all_cons] at h
  obtain ⟨code, c₆, -, sixth, codeDigits, h⟩ := exists_leads_of_run_many1 h
  obtain ⟨d, last, done⟩ := run_lit_eq_some.mp h
  have digits {cs : List Char} (h : ∀ x ∈ cs, CharSet.digit.mem x = true) : '[' ∉ cs :=
    fun mem => absurd (h _ mem) (by decide)
  have whole := (((((opened.trans second).trans third).trans fourth).trans fifth).trans
    sixth).trans last
  refine ⟨_, ⟨c₁, c₂⟩, d, ?_, whole, done⟩
  simp only [List.mem_append, not_or]
  exact ⟨⟨⟨⟨⟨⟨by decide, digits lineDigits⟩, by decide⟩, noOpen_severityWord _ listed⟩, by decide⟩,
    digits codeDigits⟩, by decide⟩

theorem exists_begins_of_matchAt (h : messagePattern.matchAt c = some m) :
    ∃ front rest, '[' ∉ front ∧ BeginsReference rest ∧
      c.rest = (m.group 1).toList ++ (front ++ rest) := by
  rw [matchAt, messagePattern_eq, run_all_cons] at h
  obtain ⟨-, h⟩ := run_textStart_eq_some.mp h
  rw [run_all_cons, run_capture] at h
  obtain ⟨file, c₁, first, -, h⟩ := exists_leads_of_run_few h
  rw [run_all_append] at h
  obtain ⟨front, s, c₂, free, second, h⟩ := exists_leads_of_run_intro h
  rw [run_all_cons] at h
  obtain ⟨message, c₃, third, plain, h⟩ := exists_leads_of_run_many h
  rw [firstReference_eq] at h
  obtain ⟨begins, -, -, d, done⟩ :=
    beginsReference_of_run (fun _ _ caps => caps) exists_leads_of_run_many h
  cases done
  have quiet : '[' ∉ message := forall_mem_noneOf.mp plain
  have name : (⟨⟨c, d⟩, [(2, s), (1, ⟨c, c₁⟩)]⟩ : Match).group 1 = String.ofList file :=
    first.text
  refine ⟨front ++ message, c₃.rest, List.mem_append.not.mpr (not_or.mpr ⟨free, quiet⟩), begins, ?_⟩
  rw [name, String.toList_ofList, first.rest, (second.trans third).rest]

theorem exists_front_of_matchAt (h : messagePattern.matchAt c = some m) :
    ∃ front rest, '[' ∉ front ∧ c.rest = (m.group 1).toList ++ (front ++ (mark ++ rest)) := by
  obtain ⟨front, rest, free, begins, split⟩ := exists_begins_of_matchAt h
  obtain ⟨rest, rfl⟩ := begins.marked
  exact ⟨front, rest, free, split⟩

theorem noOpen_message_of_front (proper : w.Proper) {front rest : List Char} (free : '[' ∉ front)
    (h : w.write.toList = w.file.toList ++ (front ++ (mark ++ rest))) : '[' ∉ w.message.toList := by
  intro mem
  obtain ⟨r, rs, refs⟩ := List.exists_cons_of_ne_nil proper.nonempty
  obtain ⟨before, behind, split, free'⟩ := List.eq_append_cons_of_mem mem
  have references : (WrittenReference.writeAll w.references).toList =
      '[' :: ("MISRA ".toList ++ r.edition.toList ++ r.id.toList ++ r.category.toList ++
        ']' :: WrittenReference.following rs) := by
    rw [refs, WrittenReference.toList_writeAll_cons, WrittenReference.opening]
    rfl
  have whole :
      (w.intro ++ before) ++ '[' :: (behind ++ (WrittenReference.writeAll w.references).toList) =
        front ++ '[' :: ("MISRA ".toList ++ rest) := by
    have cut := List.append_cancel_left (w.toList_write.symm.trans h)
    rw [split] at cut
    simpa [List.append_assoc, mark_eq] using cut
  have first : front ++ ['['] <+:
      (w.intro ++ before) ++ '[' :: (behind ++ (WrittenReference.writeAll w.references).toList) :=
    ⟨"MISRA ".toList ++ rest, by rw [whole, ← List.append_cons]⟩
  have same : front = w.intro ++ before := Text.eq_of_prefix_append_cons free
    (List.mem_append.not.mpr (not_or.mpr ⟨proper.noOpen_intro, free'⟩)) first
  rw [← same] at whole
  have next := (List.cons.inj (List.append_cancel_left whole)).2
  have next' : "MISRA ".toList <+: behind ++ (WrittenReference.writeAll w.references).toList :=
    ⟨rest, next.symm⟩
  rw [references] at next'
  obtain ⟨more, rfl⟩ := Text.prefix_of_prefix_append_cons (by decide) next'
  exact proper.message ⟨before, more, by rw [split, mark_eq, List.append_assoc]; rfl⟩

end Read

namespace WrittenWarning

variable {w : WrittenWarning}

/-- The file name of a warning is read as a reference, alone or with what stands behind it. -/
def NamesReference (w : WrittenWarning) : Prop :=
  ∃ u cs, w.write.toList = u ++ cs ∧ u.length < w.file.toList.length ∧ BeginsReference cs

/-- If the message opens no bracket, a match before the references begins in the file name. -/
theorem idle_iff (proper : w.Proper) (free : '[' ∉ w.message.toList) :
    (∀ u e, Leads (.ofText w.write.toList) u e →
        u.length < (w.file.toList ++ (w.intro ++ w.message.toList)).length →
        referencePattern.matchAt e = none) ↔
      ¬ w.NamesReference := by
  have free' : '[' ∉ w.intro ++ w.message.toList :=
    List.mem_append.not.mpr (not_or.mpr ⟨proper.noOpen_intro, free⟩)
  have text := w.toList_write
  rw [← List.append_assoc w.intro] at text
  exact idle_iff_not_beginsWithin free' ((Cursor.rest_ofText _).trans text)

theorem map_findAll_eq_iff (proper : w.Proper) (free : '[' ∉ w.message.toList) :
    (referencePattern.findAll w.write).map (·.group 1) =
        w.references.map WrittenReference.id ↔ ¬ w.NamesReference := by
  rw [← idle_iff proper free]
  obtain ⟨r, rs, refs⟩ := List.exists_cons_of_ne_nil proper.nonempty
  have rest : (Cursor.ofText w.write.toList).rest =
      (w.file.toList ++ (w.intro ++ w.message.toList)) ++
        (r.opening ++ ']' :: WrittenReference.following rs) := by
    rw [← WrittenReference.toList_writeAll_cons, ← refs, List.append_assoc, List.append_assoc,
      Cursor.rest_ofText, w.toList_write]
  rw [refs, findAll]
  refine map_findAllFrom_eq_iff (refs ▸ proper.references) false rest ?_
  rw [Cursor.rest_ofText]
  omega

/-- A warning gives a violation for each of its references, in order, exactly if its message opens
no bracket and its file name is not read as a reference. -/
theorem violations_write_iff (proper : w.Proper) :
    violations w.write = w.references.map (fun r => ⟨w.file, w.line, r.id⟩) ↔
      '[' ∉ w.message.toList ∧ ¬ w.NamesReference := by
  constructor
  · intro read
    cases found : messagePattern.find? w.write with
    | none =>
      rw [violations, found] at read
      exact absurd (List.map_eq_nil_iff.mp read.symm) proper.nonempty
    | some m =>
      simp only [violations, found] at read
      have ids := congrArg (List.map Violation.guideline) read
      rw [List.map_map, List.map_map] at ids
      have file : m.group 1 = w.file := by
        have files := congrArg (List.map Violation.file) read
        obtain ⟨r, rs, refs⟩ := List.exists_cons_of_ne_nil proper.nonempty
        rw [refs] at files
        cases all : referencePattern.findAll w.write with
        | nil => simp [all] at files
        | cons m' ms =>
          rw [all] at files
          exact (List.cons.inj files).1
      obtain ⟨front, rest, quiet, split⟩ := exists_front_of_matchAt
        (matchAt_of_findFrom_textStart messagePattern_eq found)
      rw [file] at split
      have free := noOpen_message_of_front proper quiet split
      exact ⟨free, (map_findAll_eq_iff proper free).mp ids⟩
  · rintro ⟨free, named⟩
    obtain ⟨m, found, file, line⟩ := exists_find?_message proper free
    have ids := (map_findAll_eq_iff proper free).mpr named
    have number : Text.readNumber 18446744073709551616 (m.group 2).toList = some w.line := by
      rw [line]
      exact readNumber_toString proper.line
    have all := congrArg (List.map fun id => (⟨w.file, w.line, id⟩ : Violation)) ids
    rw [List.map_map, List.map_map] at all
    simp only [violations, found, file, number, Option.getD_some]
    exact all

theorem not_namesReference (free : '[' ∉ w.file.toList) : ¬ w.NamesReference :=
  not_beginsWithin free ⟨_, w.toList_write.symm⟩

def boundsWarning (message : String) : WrittenWarning :=
  ⟨"a.c", 7, "Warning", "415", message, [⟨"2012 ", "Rule 18.1", ", required"⟩]⟩

theorem proper_boundsWarning {message : String} (unmarked : ¬ mark <:+: message.toList) :
    (boundsWarning message).Proper where
  file x hx := by
    have plain : '(' ∉ "a.c".toList ∧ '\n' ∉ "a.c".toList := by decide
    exact ⟨fun same => plain.1 (same ▸ hx), fun same => plain.2 (same ▸ hx)⟩
  line := (by decide : 7 < 18446744073709551616)
  severity := (by decide : "Warning" ∈ severityWords)
  code := (by decide : "415" ≠ "")
  digits := List.all_eq_true.mp (by decide : "415".toList.all Char.isDigit = true)
  message := unmarked
  nonempty := List.cons_ne_nil _ _
  references r hr := by
    obtain rfl := List.mem_singleton.mp hr
    exact ⟨by decide, by decide, by decide, bare_of_not_mem (by decide) (by decide)⟩

theorem violations_write_of_other_words :
    let plain := boundsWarning "Likely access of out-of-bounds pointer "
    let quoting := boundsWarning "Likely access of out-of-bounds pointer by operator '[' "
    plain.Proper ∧ quoting.Proper ∧ violations plain.write = [⟨"a.c", 7, "Rule 18.1"⟩] ∧
      violations quoting.write ≠ [⟨"a.c", 7, "Rule 18.1"⟩] := by
  intro plain quoting
  have proper : plain.Proper := proper_boundsWarning (by decide +kernel)
  have proper' : quoting.Proper := proper_boundsWarning (by decide +kernel)
  refine ⟨proper, proper', ?_, fun read => ?_⟩
  · exact (violations_write_iff proper).mpr ⟨by decide +kernel, not_namesReference (by decide)⟩
  · obtain ⟨free, -⟩ := (violations_write_iff proper').mp read
    exact absurd free (by decide +kernel)

/-- A warning whose message quotes a bracket is lost. -/
theorem not_forall_violations_write :
    ¬ ∀ w : WrittenWarning, w.Proper → '\n' ∉ w.message.toList →
      violations w.write = w.references.map fun r => ⟨w.file, w.line, r.id⟩ := by
  intro all
  let quoting := boundsWarning "Likely access of out-of-bounds pointer by operator '[' "
  have read := all quoting (proper_boundsWarning (by decide +kernel)) (by decide +kernel)
  have lost : violations quoting.write = [] := by decide +kernel
  rw [lost] at read
  cases read

end WrittenWarning

end GuidelineCompliance.PcLint
