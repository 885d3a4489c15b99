import GuidelineCompliance.Proofs.AppendOptions
import GuidelineCompliance.Proofs.WarningLines

/-! One bracket in a reference document and in a warning. The document is read up to the end of the
id, whatever stands behind it, while a warning counts only with a category that is known. -/

namespace GuidelineCompliance.PcLint

open Pattern
open Text (Digits)

/-- A bracket that an option puts behind the message with a code, and a warning with that code that
ends with the bracket. -/
structure CodedBracket where
  code : String
  body : String
  file : String
  line : Nat
  message : String

namespace CodedBracket

structure Proper (b : CodedBracket) : Prop where
  code : Digits b.code.toList
  oneLine : '\n' ∉ b.body.toList
  oneOption : ¬ appendMark <:+: b.body.toList
  noParen : '(' ∉ b.file.toList
  noFeed : '\n' ∉ b.file.toList
  message : '[' ∉ b.message.toList

instance (b : CodedBracket) : Decidable b.Proper :=
  decidable_of_iff
    (Digits b.code.toList ∧ '\n' ∉ b.body.toList ∧ ¬ appendMark <:+: b.body.toList ∧
      '(' ∉ b.file.toList ∧ '\n' ∉ b.file.toList ∧ '[' ∉ b.message.toList)
    ⟨fun ⟨code, oneLine, oneOption, noParen, noFeed, message⟩ =>
        ⟨code, oneLine, oneOption, noParen, noFeed, message⟩,
      fun h => ⟨h.code, h.oneLine, h.oneOption, h.noParen, h.noFeed, h.message⟩⟩

def bracket (b : CodedBracket) : String := "[MISRA " ++ b.body ++ "]"

def option (b : CodedBracket) : String := "-append(" ++ b.code ++ "," ++ b.bracket ++ ")"

def warning (b : CodedBracket) : String :=
  b.file ++ "(" ++ toString b.line ++ "): Note " ++ b.code ++ ": " ++ b.message ++ " " ++ b.bracket

def heading (b : CodedBracket) : WrittenWarning :=
  ⟨b.file, b.line, "Note", b.code, b.message ++ " ", []⟩

variable {b : CodedBracket}

theorem toList_bracket (b : CodedBracket) :
    b.bracket.toList = mark ++ (b.body.toList ++ [']']) := by
  simp [bracket, mark_eq]

theorem toList_option (b : CodedBracket) : b.option.toList =
    appendMark ++ (b.code.toList ++ (",[MISRA ".toList ++ (b.body.toList ++ "])".toList))) := by
  simp [option, bracket, appendMark_eq]

theorem toList_warning (b : CodedBracket) : b.warning.toList =
    b.file.toList ++ ((b.heading.intro ++ b.heading.message.toList) ++ b.bracket.toList) := by
  simp [warning, heading, WrittenWarning.intro, bracket]

end CodedBracket

section Option

variable {α : Type} {k : Follow α} {caps : Captures} {c : Cursor} {m : Match}

def idToClose : List Pattern :=
  [.capture 2 (many1 (.noneOf [',', ']'])), many (.noneOf ['\n']), lit "])"]

theorem run_idToClose {id middle : List Char} (nonempty : id ≠ []) (bare : Bare id)
    (stop : EndsId (middle ++ "])".toList)) (noFeed : '\n' ∉ middle)
    (hc : c.rest = id ++ (middle ++ "])".toList)) :
    ∃ d, Leads c id d ∧ ∀ (k : Follow α) caps, (∀ e caps, (k e caps).isSome = true) →
      ∃ e r, run (all idToClose) k c caps = some r ∧ k e ((2, ⟨c, d⟩) :: caps) = some r := by
  obtain ⟨d, inner, h⟩ := Leads.exists_of_rest hc
  obtain ⟨f, middle', h'⟩ := Leads.exists_of_rest h
  obtain ⟨e', close, -⟩ := Leads.exists_of_rest (h'.trans (List.append_nil _).symm)
  refine ⟨d, inner, fun k caps total => ?_⟩
  have ends : (run (lit "])") k f ((2, ⟨c, d⟩) :: caps)).isSome = true := by
    obtain ⟨r, done⟩ := Option.isSome_iff_exists.mp (total e' ((2, ⟨c, d⟩) :: caps))
    exact Option.isSome_iff_exists.mpr ⟨r, run_lit_eq_some.mpr ⟨e', close, done⟩⟩
  obtain ⟨r, found⟩ := Option.isSome_iff_exists.mp
    (isSome_run_many middle' (forall_mem_noneOf.mpr noFeed) ends)
  obtain ⟨-, g, -, -, closed⟩ := exists_leads_of_run_many found
  obtain ⟨e, -, done⟩ := run_lit_eq_some.mp closed
  refine ⟨e, r, ?_, done⟩
  rw [idToClose, run_all_cons, run_capture]
  exact run_many1_of_leads nonempty inner (fun x hx => mem_bare_iff.mpr (bare x hx)) (h ▸ stop)
    found

theorem exists_id_of_run {c' : Cursor} {body : List Char} (oneLine : '\n' ∉ body)
    (hc : c.rest = body ++ "])".toList)
    (h : run (all idToClose) (fun d caps => some (⟨⟨c', d⟩, caps⟩ : Match)) c caps = some m) :
    ∃ middle, body = (m.group 2).toList ++ middle ∧ Bare (m.group 2).toList ∧
      EndsId (middle ++ "])".toList) := by
  obtain ⟨x, hx, mem⟩ : ∃ x ∈ c.rest.head?, (CharSet.noneOf [',', ']']).mem x = true := by
    rw [idToClose, run_all_cons, run_capture] at h
    exact exists_head_of_run_many1 h
  obtain ⟨id, d, inner, taken, stop⟩ := exists_longest (.noneOf [',', ']']) c
  have bare : Bare id := fun y hy => mem_bare_iff.mp (taken y hy)
  have nonempty : id ≠ [] := by
    rintro rfl
    rw [inner.unique (.refl c)] at stop
    simp [stop x hx] at mem
  obtain ⟨middle, rfl⟩ : id <+: body := Text.prefix_of_prefix_append_cons
    (fun close => (bare _ close).2 rfl) ⟨d.rest, (hc.symm.trans inner.rest).symm⟩
  rw [List.append_assoc] at hc
  rw [List.append_cancel_left (inner.rest.symm.trans hc)] at stop
  obtain ⟨d', inner', read⟩ := run_idToClose (α := Match) nonempty bare stop
    (fun mem => oneLine (List.mem_append_right _ mem)) hc
  obtain ⟨e, r, read, done⟩ :=
    read (fun d caps => some (⟨⟨c', d⟩, caps⟩ : Match)) caps fun _ _ => rfl
  rw [h] at read
  cases read
  cases done
  have group : (⟨⟨c', e⟩, (2, ⟨c, d'⟩) :: caps⟩ : Match).group 2 = String.ofList id :=
    inner'.text
  rw [group, String.toList_ofList]
  exact ⟨middle, rfl, bare, stop⟩

theorem exists_run_of_matchAt_append {code body : List Char} (digits : Digits code)
    (hc : c.rest = appendMark ++ (code ++ (",[MISRA ".toList ++ (body ++ "])".toList))))
    (h : appendPattern.matchAt c = some m) : ∃ d caps, d.rest = body ++ "])".toList ∧
      run (anyOf? editionWords)
        (run (all idToClose) fun d caps => some (⟨⟨c, d⟩, caps⟩ : Match)) d caps = some m := by
  rw [matchAt, appendPattern_eq, run_all_cons] at h
  obtain ⟨c₁, marked, h⟩ := run_lit_eq_some.mp h
  rw [run_all_cons, run_capture] at h
  obtain ⟨number, c₂, -, second, taken, h⟩ := exists_leads_of_run_many1 h
  rw [run_all_cons] at h
  obtain ⟨c₃, marked', h⟩ := run_lit_eq_some.mp h
  have rest : number ++ (",[MISRA ".toList ++ c₃.rest) =
      code ++ (",[MISRA ".toList ++ (body ++ "])".toList)) := by
    rw [← marked'.rest, ← second.rest]
    exact List.append_cancel_left (marked.rest.symm.trans hc)
  have comma {rest : List Char} :
      ∀ x ∈ (",[MISRA ".toList ++ rest).head?, CharSet.digit.mem x = false :=
    stop_of_head rfl (by decide)
  obtain rfl := longest_unique taken digits.digit comma comma rest
  rw [run_all_cons] at h
  exact ⟨c₃, _, List.append_cancel_left (List.append_cancel_left rest), h⟩

/-- What an option is read as. The edition in front of the id is left out, unless nothing is left
then. -/
theorem exists_edition_of_matchAt {code body : List Char} (digits : Digits code)
    (oneLine : '\n' ∉ body)
    (hc : c.rest = appendMark ++ (code ++ (",[MISRA ".toList ++ (body ++ "])".toList))))
    (h : appendPattern.matchAt c = some m) :
    ∃ edition ∈ "" :: editionWords, ∃ middle,
      body = edition.toList ++ ((m.group 2).toList ++ middle) ∧ Bare (m.group 2).toList ∧
      EndsId (middle ++ "])".toList) ∧
      (edition = "" → ∀ w ∈ editionWords, w.toList <+: (m.group 2).toList → m.group 2 = w) := by
  obtain ⟨d, caps, hd, h⟩ := exists_run_of_matchAt_append digits hc h
  rw [anyOf?, run_opt] at h
  obtain found | ⟨absent, found⟩ := Option.or_eq_some_iff.mp h
  · obtain ⟨edition, he, e, leads, read⟩ := exists_leads_of_run_anyOf found
    have editions : ∀ w ∈ editionWords, ']' ∉ w.toList ∧ w ≠ "" := by decide
    obtain ⟨body', rfl⟩ := Text.prefix_of_prefix_append_cons (editions edition he).1
      ⟨e.rest, (hd.symm.trans leads.rest).symm⟩
    rw [leads.rest, List.append_assoc] at hd
    obtain ⟨middle, rfl, bare, stop⟩ := exists_id_of_run
      (fun mem => oneLine (List.mem_append_right _ mem)) (List.append_cancel_left hd) read
    exact ⟨edition, List.mem_cons_of_mem _ he, middle, rfl, bare, stop,
      fun empty => absurd empty (editions edition he).2⟩
  · obtain ⟨middle, rfl, bare, stop⟩ := exists_id_of_run oneLine hd found
    refine ⟨"", List.mem_cons_self, middle, rfl, bare, stop, fun _ w hw begins => ?_⟩
    obtain ⟨more, same⟩ := begins
    -- If more than the edition stood there, the id would be read behind it.
    by_contra other
    have nonempty : more ≠ [] := fun nothing =>
      other (String.toList_inj.mp (by rw [← same, nothing]; simp))
    rw [← same, List.append_assoc, List.append_assoc] at hd
    obtain ⟨e, edition, he⟩ := Leads.exists_of_rest hd
    obtain ⟨f, -, read⟩ := run_idToClose (α := Match) nonempty
      (fun x hx => bare x (same ▸ List.mem_append_right _ hx)) stop
      (fun mem => oneLine (List.mem_append_right _ mem)) he
    obtain ⟨g, r, read, -⟩ :=
      read (fun d caps => some (⟨⟨c, d⟩, caps⟩ : Match)) caps fun _ _ => rfl
    cases (run_lit_eq_none_of_run_anyOf absent w hw).symm.trans
      (run_lit_eq_some.mpr ⟨e, edition, read⟩)

end Option

namespace CodedBracket

variable {b : CodedBracket} {n : Nat} {i : String} {m : Match}

theorem matchAt_of_mem_findAll (proper : b.Proper) (h : m ∈ appendPattern.findAll b.option) :
    appendPattern.matchAt (.ofText b.option.toList) = some m := by
  obtain ⟨passed, leads, found⟩ := exists_leads_of_mem_findAllFrom h
  have marked : appendMark <+: m.span.start.rest := by
    rw [matchAt, appendPattern_eq, run_all_cons] at found
    obtain ⟨d, marked, -⟩ := run_lit_eq_some.mp found
    exact ⟨d.rest, marked.rest.symm⟩
  cases passed with
  | nil => rwa [leads.unique (.refl _)] at found
  | cons x passed =>
    have rest := leads.rest
    have begins : appendMark = '-' :: "append(".toList := by decide
    rw [Cursor.rest_ofText, toList_option, begins, List.cons_append, List.cons_append] at rest
    have later : appendMark <:+: "append(".toList ++ (b.code.toList ++ ",[MISRA ".toList) ++
        (b.body.toList ++ "])".toList) := by
      rw [List.append_assoc, List.append_assoc, (List.cons.inj rest).2]
      exact marked.isInfix.trans (List.suffix_append _ _).isInfix
    have free : '-' ∉ "append(".toList ++ (b.code.toList ++ ",[MISRA ".toList) := by
      simp only [List.mem_append, not_or]
      exact ⟨by decide, proper.code.not_mem (by decide), by decide⟩
    obtain inside | behind := Text.infix_of_infix_append_cons (by decide)
      (Text.infix_of_cons_infix_append free later)
    · exact absurd inside proper.oneOption
    · exact absurd behind (by decide)

theorem exists_edition_of_mem_codeTable (proper : b.Proper) (h : (n, i) ∈ codeTable b.option) :
    ∃ edition ∈ "" :: editionWords, ∃ middle,
      b.body.toList = edition.toList ++ (i.toList ++ middle) ∧ Bare i.toList ∧
      EndsId (middle ++ "])".toList) ∧
      (edition = "" → ∀ w ∈ editionWords, w.toList <+: i.toList → i = w) := by
  obtain ⟨m, hm, entry⟩ := List.mem_filterMap.mp h
  obtain ⟨code, -, same⟩ := Option.map_eq_some_iff.mp entry
  cases same
  exact exists_edition_of_matchAt proper.code proper.oneLine
    ((Cursor.rest_ofText _).trans b.toList_option) (matchAt_of_mem_findAll proper hm)

theorem noOpen_heading (proper : b.Proper) :
    '[' ∉ b.heading.intro ++ b.heading.message.toList := by
  have intro : '[' ∉ b.heading.intro :=
    WrittenWarning.noOpen_intro (by decide : "Note" ∈ severityWords) proper.code
  have message : '[' ∉ b.heading.message.toList := by simp [heading, proper.message]
  exact List.mem_append.not.mpr (not_or.mpr ⟨intro, message⟩)

theorem exists_find?_eq_findFrom (proper : b.Proper)
    (named : ¬ BeginsWithin b.file.toList.length b.warning.toList) :
    ∃ d, d.rest = b.bracket.toList ∧
      referencePattern.find? b.warning = referencePattern.findFrom d := by
  have text := (Cursor.rest_ofText _).trans b.toList_warning
  have idle := (idle_iff_not_beginsWithin (noOpen_heading proper) text).mpr named
  rw [← List.append_assoc] at text
  obtain ⟨d, leads, hd⟩ := Leads.exists_of_rest text
  exact ⟨d, hd, findFrom_skip leads idle⟩

theorem opening_prefix_iff {r : WrittenReference} : r.opening ++ [']'] <+: b.bracket.toList ↔
    r.edition.toList ++ r.id.toList ++ r.category.toList ++ [']'] <+: b.body.toList ++ [']'] := by
  simp only [toList_bracket, WrittenReference.opening, List.append_assoc,
    List.prefix_append_right_inj]

theorem exists_find?_of_beginsReference (proper : b.Proper)
    (begins : BeginsReference b.bracket.toList) :
    ∃ m, messagePattern.find? b.warning = some m ∧ m.group 1 = b.file ∧
      m.group 2 = toString b.line := by
  have free := noOpen_heading proper
  rw [List.mem_append, not_or] at free
  have text := (Cursor.rest_ofText _).trans b.toList_warning
  rw [List.append_assoc b.heading.intro] at text
  obtain ⟨m, found, file, line⟩ := exists_matchAt_message (w := b.heading)
    (by decide : "Note" ∈ severityWords) proper.code proper.noParen proper.noFeed free.2 begins rfl
    text
  exact ⟨m, findFrom_of_matchAt found, file, line⟩

theorem beginsReference_of_find? (proper : b.Proper) (h : messagePattern.find? b.warning = some m)
    (file : m.group 1 = b.file) : BeginsReference b.bracket.toList := by
  obtain ⟨front, rest, free, begins, split⟩ := exists_begins_of_matchAt
    (matchAt_of_findFrom_textStart messagePattern_eq h)
  rw [file, Cursor.rest_ofText, toList_warning] at split
  have whole := List.append_cancel_left split
  have stop {cs : List Char} (h : mark <+: cs) :
      ∀ x ∈ cs.head?, (CharSet.noneOf ['[']).mem x = false := by
    obtain ⟨rest, rfl⟩ := h
    exact stop_of_head rfl (by decide)
  -- Both are what stands behind the file name from the first bracket that opens.
  obtain rfl := longest_unique (forall_mem_noneOf.mpr (noOpen_heading proper))
    (forall_mem_noneOf.mpr free) (stop ⟨_, b.toList_bracket.symm⟩) (stop begins.marked) whole
  rw [List.append_cancel_left whole]
  exact begins

theorem head?_violations {line : String} (h : messagePattern.find? line = some m) :
    (violations line).head? = (referencePattern.find? line).map fun r => {
      file := m.group 1
      line := (Text.readNumber 18446744073709551616 (m.group 2).toList).getD 0
      guideline := r.group 1 } := by
  simp only [violations, h, findAll]
  rw [findAllFrom_succ takesText_referencePattern, find?]
  cases referencePattern.findFrom (.ofText line.toList) <;> rfl

theorem readable_of_mem_codeTable (proper : b.Proper) (held : (n, i) ∈ codeTable b.option)
    {edition category : String} (he : edition ∈ "" :: editionWords)
    (hc : category ∈ "" :: categoryWords) (plain : edition = "" → i ∉ editionWords)
    (there : edition.toList ++ i.toList ++ category.toList ++ [']'] <+: b.body.toList ++ [']']) :
    (⟨edition, i, category⟩ : WrittenReference).Readable := by
  obtain ⟨edition', he', middle, body, bare, stop, alone⟩ :=
    exists_edition_of_mem_codeTable proper held
  refine ⟨he, hc, bare, fun empty w hw begins => ?_⟩
  have taken {w : String} (hw : w ∈ "" :: editionWords) :
      ∀ x ∈ w.toList ++ i.toList, (CharSet.noneOf [',', ']']).mem x = true := fun x hx =>
    mem_bare_iff.mpr (Bare.edition_append hw bare x hx)
  obtain ⟨more, split⟩ := there
  have text : edition.toList ++ i.toList ++ (category.toList ++ [']'] ++ (more ++ [')'])) =
      edition'.toList ++ i.toList ++ (middle ++ "])".toList) := by
    have whole := congrArg (· ++ [')']) split
    rw [body] at whole
    simpa using whole
  have same := longest_unique (taken he) (taken he') (stop_of_category hc (List.prefix_append _ _))
    stop text
  obtain rfl : edition' = edition := (String.toList_inj.mp (List.append_cancel_right same)).symm
  exact plain empty (alone empty w hw begins ▸ hw)

/-- The table and the warning have the id of a bracket in common exactly if nothing but a category
that is known stands behind the id, and the id is no edition. -/
theorem head?_violations_eq_iff (proper : b.Proper)
    (named : ¬ BeginsWithin b.file.toList.length b.warning.toList)
    (held : (n, i) ∈ codeTable b.option) :
    (violations b.warning).head? =
        some ⟨b.file, if b.line < 18446744073709551616 then b.line else 0, i⟩ ↔
      ∃ edition ∈ "" :: editionWords, ∃ category ∈ "" :: categoryWords,
        (edition = "" → i ∉ editionWords) ∧
        edition.toList ++ i.toList ++ category.toList ++ [']'] <+: b.body.toList ++ [']'] := by
  obtain ⟨d, hd, first⟩ := exists_find?_eq_findFrom proper named
  constructor
  · intro read
    cases found : messagePattern.find? b.warning with
    | none =>
      rw [violations, found] at read
      cases read
    | some m =>
      rw [head?_violations found, first, Option.map_eq_some_iff] at read
      obtain ⟨m', found', same⟩ := read
      obtain ⟨file, -, id⟩ := Violation.mk.inj same
      obtain ⟨m'', here, r, readable, id', leads⟩ :=
        exists_matchAt_of_beginsReference (hd ▸ beginsReference_of_find? proper found file)
      obtain rfl := Option.some.inj (found'.symm.trans (findFrom_of_matchAt here))
      obtain rfl : r.id = i := id'.symm.trans id
      refine ⟨r.edition, readable.edition, r.category, readable.category,
        fun empty listed => readable.plain empty _ listed (List.prefix_refl _), ?_⟩
      exact opening_prefix_iff.mp ⟨m'.span.stop.rest, (hd ▸ leads.rest).symm⟩
  · rintro ⟨edition, he, category, hc, plain, there⟩
    have readable := readable_of_mem_codeTable proper held he hc plain there
    obtain ⟨rest, split⟩ := (opening_prefix_iff (r := ⟨edition, i, category⟩)).mpr there
    obtain ⟨e, leads, -⟩ := Leads.exists_of_rest (hd.trans split.symm)
    obtain ⟨m', here, -, id⟩ := exists_matchAt_reference readable leads
    obtain ⟨m, found, file, line⟩ :=
      exists_find?_of_beginsReference proper (readable.begins ⟨rest, split⟩)
    rw [head?_violations found, first, findFrom_of_matchAt here, Option.map_some, file, line, id,
      Text.readNumber_toString_eq]
    by_cases fits : b.line < 18446744073709551616
    · rw [if_pos fits, if_pos fits, Option.getD_some]
    · rw [if_neg fits, if_neg fits, Option.getD_none]

/-- A bracket for a warning about missing documentation, with a category. -/
def documentation (category : String) : CodedBracket :=
  ⟨"961", "C++ Rule 1-0-2, " ++ category, "a.c", 7, "No documentation"⟩

theorem head?_violations_documentation :
    (961, "Rule 1-0-2") ∈ codeTable (documentation "required").option ∧
      (961, "Rule 1-0-2") ∈ codeTable (documentation "document").option ∧
      (violations (documentation "required").warning).head? = some ⟨"a.c", 7, "Rule 1-0-2"⟩ ∧
      (violations (documentation "document").warning).head? ≠ some ⟨"a.c", 7, "Rule 1-0-2"⟩ := by
  have held : (961, "Rule 1-0-2") ∈ codeTable (documentation "required").option := by
    decide +kernel
  have held' : (961, "Rule 1-0-2") ∈ codeTable (documentation "document").option := by
    decide +kernel
  have proper : (documentation "required").Proper := by decide +kernel
  have proper' : (documentation "document").Proper := by decide +kernel
  refine ⟨held, held', ?_, ?_⟩
  · refine (head?_violations_eq_iff proper ?_ held).mpr ?_
    · exact not_beginsWithin (by decide) ⟨_, (toList_warning _).symm⟩
    · decide +kernel
  · refine (head?_violations_eq_iff proper' ?_ held').not.mpr ?_
    · exact not_beginsWithin (by decide) ⟨_, (toList_warning _).symm⟩
    · decide +kernel

theorem not_forall_exists_violation : ¬ ∀ b : CodedBracket, b.Proper →
    ∀ n i, (n, i) ∈ codeTable b.option → ∃ v ∈ violations b.warning, v.guideline = i := by
  intro all
  obtain ⟨v, there, -⟩ := all (documentation "document") (by decide +kernel) 961 "Rule 1-0-2"
    (by decide +kernel)
  have lost : violations (documentation "document").warning = [] := by decide +kernel
  rw [lost] at there
  cases there

end CodedBracket

end GuidelineCompliance.PcLint
