import GuidelineCompliance.Proofs.DeviationTags

/-! Reading back written tags. Each family of tags is searched for on its own. Its pattern matches
at the front of each tag of the family, up to the end of that tag, and nowhere else. -/

namespace GuidelineCompliance

open Pattern (Cursor Leads Span Match Follow Captures run all char many)

namespace TagFamily

open WrittenTag

variable {c d : Cursor} {m : Match}

theorem parse?_standardText (family : TagFamily) :
    Pattern.parse? family.standardText = some family.standard := by
  cases family <;> decide +kernel

def idToBracket : List Pattern := [.capture 1 (many (.noneOf [')'])), char ')']

theorem run_idToBracket {id : String} (plain : PlainField id)
    (h : Leads c (id.toList ++ [')']) d) :
    ∃ s : Span, s.text = id ∧ ∀ {k : Follow Match} {caps : Captures} {r : Match},
      k d ((1, s) :: caps) = some r → run (all idToBracket) k c caps = some r := by
  obtain ⟨e, inner, close⟩ := h.exists_between
  refine ⟨⟨c, e⟩, inner.text_toList, fun done => ?_⟩
  refine Pattern.run_many_of_leads inner (fun x hx => ?_) (by simp [close.rest]) ?_
  · have : x ≠ ')' := fun same => plain.noClose (same ▸ hx)
    simp [this]
  · exact Pattern.run_char_eq_some.mpr ⟨d, close, done⟩

theorem guideline_eq : guideline.standard = all ([.anchor .wordEdge] ++
    ("GUIDELINE".toList ++ ['(']).map char ++ idToBracket) := rfl

theorem exists_matchAt_guideline {id : String} (plain : PlainField id)
    (space : c.before.all (· == ' ') = true)
    (h : Leads c (WrittenTag.guideline id).write.toList d) :
    ∃ m, guideline.standard.matchAt c = some m ∧ m.span.stop = d ∧ m.group? 1 = some id := by
  have written : (WrittenTag.guideline id).write.toList =
      ("GUIDELINE".toList ++ ['(']) ++ (id.toList ++ [')']) := by
    simp [write, word, fields, bracket]
  rw [written] at h
  have edge := edge_holds space (x := 'G') (by rw [h.rest]; rfl) (by decide)
  obtain ⟨c₁, opening, h⟩ := h.exists_between
  obtain ⟨s, rfl, done⟩ := run_idToBracket plain h
  refine ⟨⟨⟨c, d⟩, [(1, s)]⟩, ?_, rfl, rfl⟩
  rw [Pattern.matchAt, guideline_eq]
  exact Pattern.run_opening_eq_some.mpr ⟨edge, c₁, opening, done rfl⟩

theorem reads_guideline :
    Reads guideline.standard (CommentTags.field? · 1) fun t => (guideline? t).map present? where
  text := by decide
  starts h := by
    obtain ⟨rest, split⟩ := Pattern.prefix_of_matchAt_opening guideline_eq h
    exact ⟨'G', by simp [← split], by decide⟩
  own {t b ts c d} plain hb space h hd := by
    cases t with
    | guideline id =>
      have plain := plain id List.mem_cons_self
      obtain ⟨m, found, stop, taken⟩ := exists_matchAt_guideline plain space h
      refine ⟨m, found, stop, ?_⟩
      rw [field?_eq_present? taken plain.trimmed]
      simpa [guideline?] using hb
    | _ => cases hb
  other {t v ts c} plain empty r hc := by
    have absent (ends : ¬ "GUIDELINE".toList <:+ t.word.toList) :
        guideline.standard.matchAt c = none :=
      matchAt_eq_none_of_word guideline_eq (by decide) (by decide) (by decide) (by decide) plain
        ends r hc
    cases t with
    | guideline id => cases empty
    | _ => exact absent (by simp only [word]; decide)

theorem exists_leads_of_run_gap {word : List Char} {ps : List Pattern} {k : Follow Match}
    {caps : Captures} {r : Match}
    (h : run (all ([Pattern.opt true (.set (.noneOf ['\n']))] ++ (word.map char ++ ps))) k c caps =
      some r) :
    ∃ gap d, gap.length ≤ 1 ∧ Leads c (gap ++ word) d := by
  rw [List.singleton_append, Pattern.run_all_cons, Pattern.run_opt, Pattern.run_all_append] at h
  obtain one | ⟨-, empty⟩ := Option.or_eq_some_iff.mp h
  · obtain ⟨x, e, -, gap, rest⟩ := Pattern.run_set_eq_some.mp one
    obtain ⟨d, second, -⟩ := Pattern.run_chars_eq_some.mp rest
    exact ⟨[x], d, by simp, gap.trans second⟩
  · obtain ⟨d, second, -⟩ := Pattern.run_chars_eq_some.mp empty
    exact ⟨[], d, by simp, second⟩

theorem prefix_of_falsePositive (h : falsePositive.standard.matchAt c = some m) :
    ∃ gap : List Char, gap.length ≤ 1 ∧
      "FALSE".toList ++ (gap ++ "POSITIVE".toList) <+: c.rest := by
  rw [Pattern.matchAt, standard, List.append_assoc, List.append_assoc] at h
  obtain ⟨-, d, first, h⟩ := Pattern.run_opening_eq_some.mp h
  obtain ⟨gap, e, short, second⟩ := exists_leads_of_run_gap h
  exact ⟨gap, short, e.rest, (first.trans second).rest.symm⟩

theorem misra_infix_of_nonMisra (h : nonMisra.standard.matchAt c = some m) :
    "MISRA".toList <:+: c.rest := by
  rw [Pattern.matchAt, standard, List.append_assoc,
    ← List.append_nil ("MISRA".toList.map char)] at h
  obtain ⟨-, d, first, h⟩ := Pattern.run_opening_eq_some.mp h
  obtain ⟨gap, e, -, second⟩ := exists_leads_of_run_gap h
  have whole := (first.trans second).rest
  exact ⟨"NON".toList ++ gap, e.rest, by simp [whole]⟩

theorem matchAt_falsePositive {r : Match} {c₁ : Cursor} (space : c.before.all (· == ' ') = true)
    (word : Leads c "FALSE_POSITIVE".toList c₁)
    (rest : run (Pattern.opt true (all (char '(' :: idToBracket)))
      (fun d caps => some ⟨⟨c, d⟩, caps⟩) c₁ [] = some r) :
    falsePositive.standard.matchAt c = some r := by
  have edge := edge_holds space (x := 'F') (by rw [word.rest]; rfl) (by decide)
  obtain ⟨a, first, word⟩ := (show Leads c ("FALSE".toList ++ "_POSITIVE".toList) c₁ from
    word).exists_between
  obtain ⟨b, gap, second⟩ := (show Leads a ('_' :: "POSITIVE".toList) c₁ from word).exists_step
  rw [Pattern.matchAt, standard, List.append_assoc, List.append_assoc]
  refine Pattern.run_opening_eq_some.mpr ⟨edge, a, first, ?_⟩
  rw [List.singleton_append, Pattern.run_all_cons, Pattern.run_opt, Pattern.run_all_append]
  refine Option.or_eq_some_iff.mpr (Or.inl ?_)
  refine Pattern.run_set_eq_some.mpr ⟨'_', b, by decide, gap, ?_⟩
  exact Pattern.run_chars_eq_some.mpr ⟨c₁, second, rest⟩

theorem exists_matchAt_falsePositives {ts : List WrittenTag}
    (space : c.before.all (· == ' ') = true)
    (h : Leads c WrittenTag.falsePositives.write.toList d) (hd : d.rest = following ts) :
    ∃ m, falsePositive.standard.matchAt c = some m ∧ m.span.stop = d ∧ m.group? 1 = none := by
  have written : WrittenTag.falsePositives.write.toList = "FALSE_POSITIVE".toList := by
    simp [write, word, fields, bracket]
  rw [written] at h
  have closed (k : Follow Match) : run (all (char '(' :: idToBracket)) k d [] = none := by
    rw [Pattern.run_all_cons]
    refine Pattern.run_char_eq_none ?_
    cases ts <;> simp [hd, following]
  refine ⟨⟨⟨c, d⟩, []⟩, matchAt_falsePositive space h ?_, rfl, rfl⟩
  rw [Pattern.run_opt, closed, Option.none_or]

theorem exists_matchAt_falsePositive {id : String} (plain : PlainField id)
    (space : c.before.all (· == ' ') = true)
    (h : Leads c (WrittenTag.falsePositive id).write.toList d) :
    ∃ m, falsePositive.standard.matchAt c = some m ∧ m.span.stop = d ∧ m.group? 1 = some id := by
  have written : (WrittenTag.falsePositive id).write.toList =
      "FALSE_POSITIVE".toList ++ '(' :: (id.toList ++ [')']) := by
    simp [write, word, fields, bracket]
  rw [written] at h
  obtain ⟨c₁, word, h⟩ := h.exists_between
  obtain ⟨c₂, opening, h⟩ := h.exists_step
  obtain ⟨s, rfl, done⟩ := run_idToBracket plain h
  refine ⟨⟨⟨c, d⟩, [(1, s)]⟩, matchAt_falsePositive space word ?_, rfl, rfl⟩
  rw [Pattern.run_opt, Pattern.run_all_cons]
  refine Option.or_eq_some_iff.mpr (Or.inl ?_)
  exact Pattern.run_char_eq_some.mpr ⟨c₂, opening, done rfl⟩

theorem reads_falsePositive :
    Reads falsePositive.standard (CommentTags.scope · 1) WrittenTag.falsePositive? where
  text := by decide
  starts h := by
    obtain ⟨gap, -, rest, split⟩ := prefix_of_falsePositive h
    exact ⟨'F', by simp [← split], by decide⟩
  own {t b ts c d} plain hb space h hd := by
    cases t with
    | falsePositives =>
      obtain ⟨m, found, stop, empty⟩ := exists_matchAt_falsePositives space h hd
      refine ⟨m, found, stop, ?_⟩
      rw [CommentTags.scope, empty]
      simpa [WrittenTag.falsePositive?] using hb
    | falsePositive id =>
      have plain := plain id List.mem_cons_self
      obtain ⟨m, found, stop, taken⟩ := exists_matchAt_falsePositive plain space h
      refine ⟨m, found, stop, ?_⟩
      rw [CommentTags.scope, taken]
      simpa [WrittenTag.falsePositive?, plain.trimmed] using hb
    | _ => cases hb
  other {t v ts c} plain nothing r hc := by
    rw [Option.eq_none_iff_forall_ne_some]
    intro m found
    obtain ⟨gap, short, opens⟩ := prefix_of_falsePositive found
    rw [hc] at opens
    have mem : 'F' ∈ t.word.toList := mem_word_of_false_gap_positive r short opens
    cases t with
    | falsePositives => cases nothing
    | falsePositive id => cases nothing
    | _ => exact absurd mem (by simp only [word]; decide)

end TagFamily

namespace CommentTags

open WrittenTag

theorem isMatch_nonMisra_writeAll {ts : List WrittenTag} (plain : ∀ t ∈ ts, t.IsPlain) :
    TagFamily.nonMisra.standard.isMatch (writeAll ts) = false := by
  rw [Pattern.isMatch, Pattern.find?]
  cases found : TagFamily.nonMisra.standard.findFrom (.ofText (writeAll ts).toList) with
  | none => rfl
  | some m =>
    obtain ⟨passed, leads, here, -⟩ := Pattern.exists_leads_of_findFrom found
    have behind : m.span.start.rest <:+ (writeAll ts).toList := ⟨passed, leads.rest.symm⟩
    have misra := (TagFamily.misra_infix_of_nonMisra here).trans behind.isInfix
    exact absurd misra (not_misra_infix_writeAll plain)

theorem ofComment_writeAll {ts : List WrittenTag} (plain : ∀ t ∈ ts, t.IsPlain) :
    ofComment .standard (writeAll ts) = meaning ts := by
  have guidelines : (TagFamily.guideline.standard.findAll (writeAll ts)).filterMap (field? · 1) =
      (ts.filterMap guideline?).filterMap present? := by
    have read := congrArg (List.filterMap id) (TagFamily.reads_guideline.map_findAll plain)
    simpa [List.filterMap_map, List.filterMap_filterMap, Function.comp_def, Option.bind_map]
      using read
  have falsePositives := TagFamily.reads_falsePositive.map_findAll plain
  have deviations := TagFamily.reads_deviation.map_findAll plain
  have whole : ofComment .standard (writeAll ts) =
      { guidelines :=
          ((TagFamily.guideline.standard.findAll (writeAll ts)).filterMap (field? · 1)).eraseDups
        nonMisra := TagFamily.nonMisra.standard.isMatch (writeAll ts)
        falsePositives :=
          (TagFamily.falsePositive.standard.findAll (writeAll ts)).map (scope · 1)
        deviations :=
          (TagFamily.deviation.standard.findAll (writeAll ts)).map deviationTag } := rfl
  rw [whole, guidelines, isMatch_nonMisra_writeAll plain, falsePositives, deviations, meaning]

theorem ofComment_writeAll_of_each_form :
    let ts : List WrittenTag := [.guideline "Rule 1.1", .falsePositive "GUIDELINE", .falsePositives,
      .guideline "", .deviation "D 7", .guideline "Rule 1.1", .linkedDeviation "" "http:host/x",
      .scopedDeviation "D 8" "" "Dir 4.1"]
    (∀ t ∈ ts, t.IsPlain) ∧
      ofComment .standard ("GUIDELINE(Rule 1.1) FALSE_POSITIVE(GUIDELINE) FALSE_POSITIVE " ++
        "GUIDELINE() DEVIATION(D 7) GUIDELINE(Rule 1.1) DEVIATION(, http:host/x) " ++
        "DEVIATION(D 8, , Dir 4.1)") =
        { guidelines := ["Rule 1.1"]
          nonMisra := false
          falsePositives := [.one "GUIDELINE", .all]
          deviations := [⟨⟨some "D 7", none⟩, .all⟩, ⟨⟨none, some "http://host/x"⟩, .all⟩,
            ⟨⟨some "D 8", none⟩, .one "Dir 4.1"⟩] } := by
  intro ts
  have plain : ∀ t ∈ ts, t.IsPlain := by decide +kernel
  have read := ofComment_writeAll plain
  refine ⟨plain, ?_⟩
  have written : writeAll ts = "GUIDELINE(Rule 1.1) FALSE_POSITIVE(GUIDELINE) FALSE_POSITIVE " ++
      "GUIDELINE() DEVIATION(D 7) GUIDELINE(Rule 1.1) DEVIATION(, http:host/x) " ++
      "DEVIATION(D 8, , Dir 4.1)" := by decide +kernel
  rw [written] at read
  rw [read]
  decide +kernel

end CommentTags

end GuidelineCompliance
