import GuidelineCompliance.Proofs.Numerals
import GuidelineCompliance.Proofs.WrittenWarnings

/-! Options of a reference document. The end of an option is sought behind the last bracket of its
line, so an option takes in the ones behind it on the line, and the table of codes holds the first
option of each line. -/

namespace GuidelineCompliance.PcLint

open Pattern

def appendMark : List Char := "-append(".toList

theorem appendMark_eq : appendMark = "-append(".toList := rfl

/-- An option that puts a reference behind the message with a code, and the blanks behind it. -/
structure AppendOption where
  code : Nat
  reference : WrittenReference
  blanks : String

namespace AppendOption

/-- The category may be any text behind a comma. -/
structure Proper (o : AppendOption) : Prop where
  code : o.code < 4294967296
  edition : o.reference.edition ∈ "" :: editionWords
  named : "Rule ".toList <+: o.reference.id.toList ∨ "Directive ".toList <+: o.reference.id.toList
  bare : Bare o.reference.id.toList
  oneLine : '\n' ∉ o.reference.id.toList
  category : o.reference.category = "" ∨ o.reference.category.toList.head? = some ','
  noClose : ']' ∉ o.reference.category.toList
  noFeed : '\n' ∉ o.reference.category.toList
  blanks : ∀ x ∈ o.blanks.toList, Text.isBlank x = true

instance (o : AppendOption) : Decidable o.Proper :=
  decidable_of_iff
    (o.code < 4294967296 ∧ o.reference.edition ∈ "" :: editionWords ∧
      ("Rule ".toList <+: o.reference.id.toList ∨ "Directive ".toList <+: o.reference.id.toList) ∧
      Bare o.reference.id.toList ∧ '\n' ∉ o.reference.id.toList ∧
      (o.reference.category = "" ∨ o.reference.category.toList.head? = some ',') ∧
      ']' ∉ o.reference.category.toList ∧ '\n' ∉ o.reference.category.toList ∧
      o.blanks.toList.all Text.isBlank = true)
    ⟨fun ⟨code, edition, named, bare, oneLine, category, noClose, noFeed, blanks⟩ =>
        ⟨code, edition, named, bare, oneLine, category, noClose, noFeed,
          List.all_eq_true.mp blanks⟩,
      fun h => ⟨h.code, h.edition, h.named, h.bare, h.oneLine, h.category, h.noClose, h.noFeed,
        List.all_eq_true.mpr h.blanks⟩⟩

def write (o : AppendOption) : String :=
  "-append(" ++ toString o.code ++ "," ++ o.reference.write ++ ")" ++ o.blanks

def writeAll (options : List AppendOption) : String := String.join (options.map write)

def opening (o : AppendOption) : List Char :=
  appendMark ++ ((toString o.code).toList ++ ([','] ++ (mark ++
    (o.reference.edition.toList ++ o.reference.id.toList))))

theorem toList_writeAll_cons (o : AppendOption) (options : List AppendOption) :
    (writeAll (o :: options)).toList = o.opening ++ (o.reference.category.toList ++
      ("])".toList ++ (o.blanks.toList ++ (writeAll options).toList))) := by
  simp [writeAll, String.join_cons, write, opening, WrittenReference.write, mark_eq, appendMark_eq]

theorem length_le_writeAll (options : List AppendOption) :
    options.length ≤ (writeAll options).toList.length := by
  induction options with
  | nil => exact Nat.zero_le _
  | cons o options ih =>
    have nonempty : 0 < o.opening.length := by simp [opening, appendMark_eq]
    rw [toList_writeAll_cons]
    simp only [List.length_append, List.length_cons]
    omega

/-- The options behind the line of the first one. -/
def nextLine : List AppendOption → List AppendOption
  | [] => []
  | o :: options => if '\n' ∈ o.blanks.toList then options else nextLine options

/-- The options that come first on their line. The flag tells whether a line begins. -/
def lineHeads : Bool → List AppendOption → List AppendOption
  | _, [] => []
  | begins, o :: options =>
    (if begins then [o] else []) ++ lineHeads ('\n' ∈ o.blanks.toList) options

theorem lineHeads_false (options : List AppendOption) :
    lineHeads false options = lineHeads true (nextLine options) := by
  induction options with
  | nil => rfl
  | cons o options ih =>
    rw [lineHeads, nextLine]
    by_cases feed : '\n' ∈ o.blanks.toList
    · simp [feed]
    · simp [feed, ih]

theorem lineHeads_cons (o : AppendOption) (options : List AppendOption) :
    lineHeads true (o :: options) = o :: lineHeads true (nextLine (o :: options)) := by
  rw [lineHeads, nextLine]
  by_cases feed : '\n' ∈ o.blanks.toList
  · simp [feed]
  · simp [feed, lineHeads_false]

theorem nextLine_suffix (o : AppendOption) (options : List AppendOption) :
    nextLine (o :: options) <:+ options := by
  induction options generalizing o with
  | nil => simp [nextLine]
  | cons next options ih =>
    rw [nextLine]
    split
    · exact List.suffix_refl _
    · exact (ih next).trans (List.suffix_cons next options)

theorem lineHeads_sublist (begins : Bool) (options : List AppendOption) :
    (lineHeads begins options).Sublist options := by
  induction options generalizing begins with
  | nil => exact List.Sublist.refl []
  | cons o options ih =>
    rw [lineHeads]
    cases begins with
    | true => exact (ih _).cons_cons o
    | false => exact (ih _).cons o

theorem lineHeads_eq_self_iff {options : List AppendOption} :
    lineHeads true options = options ↔ ∀ o ∈ options.dropLast, '\n' ∈ o.blanks.toList := by
  induction options with
  | nil => simp [lineHeads]
  | cons o options ih =>
    cases options with
    | nil => simp [lineHeads]
    | cons next options =>
      rw [lineHeads, List.dropLast_cons_cons, List.forall_mem_cons]
      by_cases feed : '\n' ∈ o.blanks.toList
      · simp [feed, ih]
      · have short := (lineHeads_sublist ('\n' ∈ next.blanks.toList) options).length_le
        have fewer : lineHeads false (next :: options) ≠ next :: options := fun all => by
          have lengths := congrArg List.length all
          simp [lineHeads] at lengths short
          omega
        simp [feed, fewer]

variable {o : AppendOption} {options : List AppendOption}

theorem Proper.noFeed_opening (proper : o.Proper) : '\n' ∉ o.opening := by
  have edition : ∀ w ∈ "" :: editionWords, '\n' ∉ w.toList := by decide
  have code : '\n' ∉ (toString o.code).toList :=
    (Text.digits_toString o.code).not_mem (by decide)
  simp only [opening, List.mem_append, not_or]
  exact ⟨by decide, code, by decide, by decide, edition _ proper.edition, proper.oneLine⟩

/-- Behind the id of an option its line goes on to the bracket that ends its last option, and from
there on only blanks stand on the line. -/
theorem exists_lineEnd (proper : ∀ o' ∈ o :: options, o'.Proper) :
    ∃ middle blanks, (writeAll (o :: options)).toList = o.opening ++ (middle ++ ("])".toList ++
        (blanks ++ (writeAll (nextLine (o :: options))).toList))) ∧
      '\n' ∉ middle ∧ (∀ x ∈ blanks, Text.isBlank x = true) ∧
      ('\n' ∈ blanks ∨ nextLine (o :: options) = []) := by
  induction options generalizing o with
  | nil =>
    have first := proper o List.mem_cons_self
    have last : nextLine [o] = [] := by simp [nextLine]
    rw [toList_writeAll_cons, last]
    exact ⟨_, _, rfl, first.noFeed, first.blanks, Or.inr rfl⟩
  | cons next options ih =>
    obtain ⟨first, rest⟩ := List.forall_mem_cons.mp proper
    rw [toList_writeAll_cons, nextLine]
    by_cases feed : '\n' ∈ o.blanks.toList
    · rw [if_pos feed]
      exact ⟨_, _, rfl, first.noFeed, first.blanks, Or.inl feed⟩
    · obtain ⟨middle, blanks, text, noFeed, blank, ends⟩ := ih rest
      rw [if_neg feed, text]
      refine ⟨o.reference.category.toList ++ ("])".toList ++ (o.blanks.toList ++
        (next.opening ++ middle))), blanks, by simp, ?_, blank, ends⟩
      simp only [List.mem_append, not_or]
      exact ⟨first.noFeed, by decide, feed, (rest next List.mem_cons_self).noFeed_opening, noFeed⟩

theorem Proper.head_behind (proper : o.Proper) (rest : List Char) :
    EndsId (o.reference.category.toList ++ ("])".toList ++ rest)) := by
  obtain empty | comma := proper.category
  · have close : EndsId ("])".toList ++ rest) := stop_of_head rfl (by decide)
    simpa [empty] using close
  · exact stop_of_head comma (by decide)

end AppendOption

open AppendOption

section Read

variable {α : Type} {k : Follow α} {caps : Captures} {c d e : Cursor} {o : AppendOption}
  {options : List AppendOption}

theorem appendPattern_eq : appendPattern =
    all [lit "-append(", .capture 1 (many1 .digit), lit ",[MISRA ", anyOf? editionWords,
      .capture 2 (many1 (.noneOf [',', ']'])), many (.noneOf ['\n']), lit "])"] := rfl

theorem codeMark_eq : ",[MISRA ".toList = [','] ++ mark := rfl

theorem run_close_eq_none {more blanks next : List Char}
    (hd : d.rest = "])".toList ++ (blanks ++ next)) (blank : ∀ x ∈ blanks, Text.isBlank x = true)
    (ends : '\n' ∈ blanks ∨ next = []) (h : Leads d more e) (nonempty : more ≠ [])
    (noFeed : '\n' ∉ more) : run (lit "])") k e caps = none := by
  rw [Option.eq_none_iff_forall_ne_some]
  intro r found
  obtain ⟨f, close, -⟩ := run_lit_eq_some.mp found
  have noClose : ']' ∉ blanks := fun mem => absurd (blank _ mem) (by decide)
  have split : more ++ (']' :: ')' :: f.rest) = ']' :: ')' :: (blanks ++ next) := by
    have whole := h.rest
    rw [hd, close.rest] at whole
    simpa using whole.symm
  obtain ⟨x, more, rfl⟩ := List.exists_cons_of_ne_nil nonempty
  cases more with
  | nil => simp at split
  | cons y more =>
    have behind : more ++ ']' :: ')' :: f.rest = blanks ++ next := by
      simpa using (List.cons.inj (List.cons.inj split).2).2
    apply noClose
    obtain feed | rfl := ends
    · obtain ⟨line, later, rfl, -⟩ := List.eq_append_cons_of_mem feed
      have front : more ++ [']'] <+: line ++ '\n' :: (later ++ next) :=
        ⟨')' :: f.rest, by simpa using behind⟩
      have free : '\n' ∉ more ++ [']'] := by simpa using fun mem => noFeed (by simp [mem])
      have within := Text.prefix_of_prefix_append_cons free front
      exact List.mem_append_left _ (within.subset (by simp))
    · rw [List.append_nil] at behind
      simp [← behind]

theorem exists_matchAt_append (proper : ∀ o' ∈ o :: options, o'.Proper)
    (hc : c.rest = (writeAll (o :: options)).toList) :
    ∃ m blanks, appendPattern.matchAt c = some m ∧ m.group 1 = toString o.code ∧
      m.group 2 = o.reference.id ∧ (∀ x ∈ blanks, Text.isBlank x = true) ∧
      m.span.stop.rest = blanks ++ (writeAll (nextLine (o :: options))).toList := by
  have first := proper o List.mem_cons_self
  have digits := Text.digits_toString o.code
  obtain ⟨middle, blanks, text, noFeed, blank, ends⟩ := exists_lineEnd proper
  have behind := List.append_cancel_left (text.symm.trans (toList_writeAll_cons o options))
  rw [text] at hc
  obtain ⟨c₅, opening, h⟩ := Leads.exists_of_rest hc
  have stop : EndsId c₅.rest := by
    rw [h, behind]
    exact first.head_behind _
  rw [AppendOption.opening] at opening
  obtain ⟨c₁, marked, opening⟩ := opening.exists_between
  obtain ⟨c₂, code, opening⟩ := opening.exists_between
  rw [← List.append_assoc, ← codeMark_eq] at opening
  obtain ⟨c₃, marked', opening⟩ := opening.exists_between
  obtain ⟨c₄, edition, id⟩ := opening.exists_between
  obtain ⟨c₆, middle', h⟩ := Leads.exists_of_rest h
  obtain ⟨d, close, hd⟩ := Leads.exists_of_rest h
  refine ⟨⟨⟨c, d⟩, [(2, ⟨c₄, c₅⟩), (1, ⟨c₁, c₂⟩)]⟩, blanks, ?_, ?_, ?_, blank, hd⟩
  · rw [matchAt, appendPattern_eq, run_all_cons]
    refine run_lit_eq_some.mpr ⟨c₁, marked, ?_⟩
    rw [run_all_cons, run_capture]
    refine run_many1_of_leads digits.nonempty code digits.digit
      (stop_of_leads marked' rfl (by decide)) ?_
    rw [run_all_cons]
    refine run_lit_eq_some.mpr ⟨c₃, marked', ?_⟩
    rw [run_all_cons]
    refine run_edition first.edition edition
      (fun _ => not_edition_of_named first.named ⟨_, id.rest.symm⟩) ?_
    rw [run_all_cons, run_capture]
    refine run_many1_of_leads ?_ id (fun x hx => mem_bare_iff.mpr (first.bare x hx)) stop ?_
    · obtain rule | directive := first.named
      · exact fun empty => absurd (empty ▸ rule) (by decide)
      · exact fun nothing => absurd (nothing ▸ directive) (by decide)
    rw [run_all_cons]
    refine run_many_of_last middle' (forall_mem_noneOf.mpr noFeed)
      (fun more e leads nonempty free => ?_) (run_lit_eq_some.mpr ⟨d, close, rfl⟩)
    refine run_close_eq_none h blank (ends.imp_right fun last => ?_) leads nonempty
      (forall_mem_noneOf.mp free)
    simp [last, writeAll]
  · exact code.text_toList
  · exact id.text_toList

theorem takesText_appendPattern : appendPattern.takesText = true := by decide

theorem matchAt_append_eq_none (h : ∀ x ∈ c.rest.head?, x ≠ '-') :
    appendPattern.matchAt c = none := by
  rw [Option.eq_none_iff_forall_ne_some]
  intro m found
  rw [matchAt, appendPattern_eq, run_all_cons] at found
  obtain ⟨d, marked, -⟩ := run_lit_eq_some.mp found
  exact not_prefix_of_head?_ne rfl h ⟨d.rest, marked.rest.symm⟩

theorem map_findAllFrom_append (proper : ∀ o ∈ options, o.Proper) {gap : List Char} {n : Nat}
    (touching : Bool) (blank : ∀ x ∈ gap, Text.isBlank x = true)
    (hc : c.rest = gap ++ (writeAll options).toList) (fuel : options.length < n) :
    (appendPattern.findAllFrom n touching c).map (fun m => (m.group 1, m.group 2)) =
      (lineHeads true options).map fun o => (toString o.code, o.reference.id) := by
  induction n generalizing options gap c touching with
  | zero => cases fuel
  | succ n ih =>
    obtain ⟨b, before, hb⟩ := Leads.exists_of_rest hc
    have idle : ∀ u e, Leads c u e → u.length < gap.length → appendPattern.matchAt e = none := by
      intro u e hu short
      obtain ⟨behind, rfl, later⟩ := hu.between before (Nat.le_of_lt short)
      refine matchAt_append_eq_none fun x hx same => ?_
      cases behind with
      | nil => simp at short
      | cons y behind =>
        obtain rfl : y = x := by simpa [later.rest] using hx
        exact absurd (blank y (by simp)) (by subst same; decide)
    rw [findAllFrom_succ takesText_appendPattern, findFrom_skip before idle]
    cases options with
    | nil =>
      have done : b.rest = [] := by simpa [writeAll] using hb
      rw [findFrom_of_rest_eq_nil done, matchAt_append_eq_none (by simp [done])]
      rfl
    | cons o options =>
      obtain ⟨m, blanks, found, code, id, blank', hd⟩ := exists_matchAt_append proper hb
      have later := nextLine_suffix o options
      have rest := ih (fun o' ho' => proper o' (List.mem_cons_of_mem o (later.subset ho'))) true
        blank' hd (by have := later.length_le; simp only [List.length_cons] at fuel; omega)
      rw [findFrom_of_matchAt found, lineHeads_cons, List.map_cons, List.map_cons, rest, code, id]

theorem codeTable_writeAll (proper : ∀ o ∈ options, o.Proper) :
    codeTable (writeAll options) =
      (lineHeads true options).map fun o => (o.code, o.reference.id) := by
  have fuel : options.length < 2 * (writeAll options).toList.length + 2 := by
    have := length_le_writeAll options
    omega
  have empty : ∀ x ∈ ([] : List Char), Text.isBlank x = true := List.forall_mem_nil _
  have read := map_findAllFrom_append proper false empty
    (Cursor.rest_ofText (writeAll options).toList) fuel
  have entries := congrArg (List.filterMap fun p => (readCode p.1).map (·, p.2)) read
  rw [List.filterMap_map, List.filterMap_map] at entries
  rw [codeTable, findAll]
  refine entries.trans ?_
  rw [← List.filterMap_eq_map]
  refine List.filterMap_congr fun o ho => ?_
  have code : readCode (toString o.code) = some o.code :=
    Text.readNumber_toString (proper o ((lineHeads_sublist true options).subset ho)).code
  rw [Function.comp_apply, code]
  rfl

end Read

def idsWithCode (options : List AppendOption) (code : Nat) : Option (List String) :=
  if ∃ o ∈ options, o.code = code then
    some ((options.filter (·.code = code)).map (·.reference.id))
  else none

theorem guidelines?_map_eq (options : List AppendOption) (code : Nat) :
    CodeTable.guidelines? (options.map fun o => (o.code, o.reference.id)) code =
      idsWithCode options code := by
  rw [CodeTable.guidelines?, idsWithCode, List.filter_map]
  split
  · rename_i empty
    rw [List.map_eq_nil_iff, List.filter_eq_nil_iff] at empty
    rw [if_neg]
    rintro ⟨o, ho, same⟩
    exact empty o ho (by simpa using same)
  · rename_i nonempty
    rw [List.map_eq_nil_iff, List.filter_eq_nil_iff] at nonempty
    rw [if_pos (by simpa using nonempty), List.map_map]
    rfl

theorem length_idsWithCode (options : List AppendOption) (code : Nat) :
    ((idsWithCode options code).getD []).length = (options.map (·.code)).count code := by
  have count : (options.map (·.code)).count code = (options.filter (·.code = code)).length := by
    rw [List.count, List.countP_map, List.countP_eq_length_filter]
    rfl
  rw [idsWithCode]
  split
  · rw [Option.getD_some, List.length_map, count]
  · rename_i empty
    have absent : code ∉ options.map (·.code) := by simpa using empty
    rw [List.count_eq_zero_of_not_mem absent]
    rfl

theorem eq_of_idsWithCode_eq {heads options : List AppendOption} (sub : heads.Sublist options)
    (h : ∀ code, idsWithCode heads code = idsWithCode options code) : heads = options := by
  have perm : (heads.map (·.code)).Perm (options.map (·.code)) := by
    refine List.perm_iff_count.mpr fun code => ?_
    rw [← length_idsWithCode, ← length_idsWithCode, h]
  exact sub.eq_of_length (by simpa using perm.length_eq)

/-- For each code the table holds the ids of the options with that code that come first on their
line, so it holds those of all options exactly if each option has a line of its own. -/
theorem guidelines?_codeTable_writeAll {options : List AppendOption}
    (proper : ∀ o ∈ options, o.Proper) :
    (∀ code, (codeTable (writeAll options)).guidelines? code =
        idsWithCode (lineHeads true options) code) ∧
      ((∀ code, (codeTable (writeAll options)).guidelines? code = idsWithCode options code) ↔
        ∀ o ∈ options.dropLast, '\n' ∈ o.blanks.toList) := by
  have closed (code : Nat) : (codeTable (writeAll options)).guidelines? code =
      idsWithCode (lineHeads true options) code := by
    rw [codeTable_writeAll proper, guidelines?_map_eq]
  refine ⟨closed, ?_⟩
  rw [← lineHeads_eq_self_iff]
  constructor
  · intro all
    refine eq_of_idsWithCode_eq (lineHeads_sublist true options) fun code => ?_
    rw [← closed code, all code]
  · intro own code
    rw [closed code, own]

def twoOptions (blanks : String) : List AppendOption :=
  [⟨16, ⟨"2012 ", "Rule 20.13", ", required"⟩, blanks⟩,
    ⟨484, ⟨"2012 ", "Rule 20.10", ", advisory"⟩, ""⟩]

theorem guidelines?_codeTable_twoOptions :
    (∀ code, (codeTable (writeAll (twoOptions "\n"))).guidelines? code =
        idsWithCode (twoOptions "\n") code) ∧
      (codeTable (writeAll (twoOptions " "))).guidelines? 484 = none := by
  have lines : ∀ o ∈ twoOptions "\n", o.Proper := by decide
  have line : ∀ o ∈ twoOptions " ", o.Proper := by decide
  constructor
  · exact (guidelines?_codeTable_writeAll lines).2.mpr (by decide)
  · rw [(guidelines?_codeTable_writeAll line).1]
    decide

theorem not_forall_guidelines?_writeAll : ¬ ∀ options : List AppendOption,
    (∀ o ∈ options, o.Proper) → (∀ o ∈ options.dropLast, o.blanks ≠ "") →
      ∀ code, (codeTable (writeAll options)).guidelines? code = idsWithCode options code := by
  intro all
  have there := all (twoOptions " ") (by decide) (by decide) 484
  rw [codeTable_writeAll (by decide), guidelines?_map_eq] at there
  exact absurd there (by decide)

end GuidelineCompliance.PcLint
