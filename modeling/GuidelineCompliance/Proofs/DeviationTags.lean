import GuidelineCompliance.Proofs.TagScanning

/-! Deviation tags. A reference, a link and an id stand between commas, each with the blanks around
it left out. A lazy group ends where its field ends, since a field ends in no blank. -/

namespace GuidelineCompliance.TagFamily

open Pattern (Cursor Leads Span Match Follow Captures CharSet run all char many)
open WrittenTag

variable {c d : Cursor} {m : Match}

theorem run_blanks_eq_none {k : Follow Match} {caps : Captures} {v : List Char}
    (h : Leads c v d) (last : ∀ x ∈ v.getLast?, Text.isBlank x = false) (nonempty : v ≠ [])
    (refused : ∀ e, (∃ x ∈ e.rest.head?, x ∈ v) → k e caps = none) :
    run (many .blank) k c caps = none := by
  rw [Option.eq_none_iff_forall_ne_some]
  intro r done
  obtain ⟨bs, e, leads, blank, done⟩ := Pattern.exists_leads_of_run_many done
  obtain past | inside := Nat.le_total v.length bs.length
  · obtain ⟨gap, rfl, -⟩ := h.between leads past
    have visible := last _ (List.getLast?_eq_some_getLast nonempty)
    have hidden := blank _ (List.mem_append_left gap (List.getLast_mem nonempty))
    exact Bool.false_ne_true (visible.symm.trans hidden)
  · obtain ⟨gap, rfl, ahead⟩ := leads.between h inside
    cases gap with
    | nil =>
      rw [List.append_nil] at last nonempty
      have visible := last _ (List.getLast?_eq_some_getLast nonempty)
      have hidden := blank _ (List.getLast_mem nonempty)
      exact Bool.false_ne_true (visible.symm.trans hidden)
    | cons x gap =>
      have empty := refused e ⟨x, by simp [ahead.rest], by simp⟩
      rw [empty] at done
      cases done

theorem run_field (group : Nat) {ends : List Char} {next : Pattern} {k : Follow Match}
    {text : String} (plain : PlainField text) (free : ∀ x ∈ text.toList, x ∉ ends)
    {blanks : List Char} (blank : ∀ x ∈ blanks, Text.isBlank x = true)
    (h : Leads c (blanks ++ text.toList) d) {stop : Char} (hd : d.rest.head? = some stop)
    (visible : Text.isBlank stop = false)
    (refused : ∀ e caps, (∃ x ∈ e.rest.head?, x ∈ text.toList) → run next k e caps = none) :
    ∃ s : Span, s.text = text ∧ ∀ {caps : Captures} {r : Match},
      run next k d ((group, s) :: caps) = some r →
        run (all (field group ends next)) k c caps = some r := by
  obtain ⟨e, before, inner⟩ := h.exists_between
  refine ⟨⟨e, d⟩, inner.text_toList, fun done => ?_⟩
  have first : ∀ x ∈ e.rest.head?, Text.isBlank x = false := by
    intro x hx
    rw [inner.rest, List.head?_append, hd] at hx
    obtain head | ⟨-, head⟩ := Option.or_eq_some_iff.mp hx
    · exact Text.isBlank_head_of_trim_eq plain.trimmed x head
    · exact Option.some.inj head ▸ visible
  refine Pattern.run_many_of_leads before (fun x hx => blank x hx) first ?_
  refine Pattern.run_few_of_leads inner (fun x hx => by simp [free x hx]) ?_ ?_
  · -- Behind a shorter field the text goes on with blanks or with more of the field.
    intro u f hu short
    obtain ⟨gap, split, ahead⟩ := hu.between inner (Nat.le_of_lt short)
    have nonempty : gap ≠ [] := by
      rintro rfl
      simp [split] at short
    refine run_blanks_eq_none ahead (fun x hx => ?_) nonempty fun g inGap => ?_
    · refine Text.isBlank_last_of_trim_eq plain.trimmed x ?_
      rw [split, List.getLast?_append, hx]
      rfl
    · obtain ⟨x, hx, mem⟩ := inGap
      exact refused g _ ⟨x, hx, split ▸ List.mem_append_right u mem⟩
  · have ended : ∀ x ∈ d.rest.head?, CharSet.blank.mem x = false := by
      simpa [hd, CharSet.mem] using visible
    exact Pattern.run_many_of_leads (.refl d) (by simp) ended done

def behindLink : Pattern := .alt (char ')') (all (char ',' :: field 3 ['(', ')'] (char ')')))

def behindReference : Pattern :=
  .alt (char ')') (all (char ',' :: field 2 [',', '(', ')'] behindLink))

section Behind

variable {ps : List Pattern} {k : Follow Match} {caps : Captures} {r : Match}

theorem run_behind_of_bracket (h : Leads c [')'] d) (done : k d caps = some r) :
    run (.alt (char ')') (all (char ',' :: ps))) k c caps = some r := by
  rw [Pattern.run_alt]
  exact Option.or_eq_some_iff.mpr (Or.inl (Pattern.run_char_eq_some.mpr ⟨d, h, done⟩))

theorem run_behind_of_comma (h : Leads c [','] d) (done : run (all ps) k d caps = some r) :
    run (.alt (char ')') (all (char ',' :: ps))) k c caps = some r := by
  have unclosed : run (char ')') k c caps = none := Pattern.run_char_eq_none (by simp [h.rest])
  rw [Pattern.run_alt, unclosed, Option.none_or, Pattern.run_all_cons]
  exact Pattern.run_char_eq_some.mpr ⟨d, h, done⟩

theorem run_behind_of_mem {text : String} (plain : PlainField text)
    (h : ∃ x ∈ c.rest.head?, x ∈ text.toList) :
    run (.alt (char ')') (all (char ',' :: ps))) k c caps = none := by
  obtain ⟨x, hx, mem⟩ := h
  have refused {y : Char} {k : Follow Match} (absent : y ∉ text.toList) :
      run (char y) k c caps = none := by
    refine Pattern.run_char_eq_none fun z hz same => ?_
    obtain rfl := Option.some.inj (hx.symm.trans hz)
    exact absent (same ▸ mem)
  rw [Pattern.run_alt, Pattern.run_all_cons, refused plain.noClose, refused plain.noComma]
  rfl

end Behind

theorem not_mem_ends {text : String} (plain : PlainField text) :
    ∀ x ∈ text.toList, x ∉ [',', '(', ')'] := by
  intro x hx mem
  obtain rfl | rfl | rfl : x = ',' ∨ x = '(' ∨ x = ')' := by simpa using mem
  · exact plain.noComma hx
  · exact plain.noOpen hx
  · exact plain.noClose hx

theorem run_reference {k : Follow Match} {reference : String} (plain : PlainField reference)
    (h : Leads c reference.toList d) {stop : Char} (hd : d.rest.head? = some stop)
    (visible : Text.isBlank stop = false) :
    ∃ s : Span, s.text = reference ∧ ∀ {caps : Captures} {r : Match},
      run behindReference k d ((1, s) :: caps) = some r →
        run (all (field 1 [',', '(', ')'] behindReference)) k c caps = some r :=
  run_field 1 plain (not_mem_ends plain) (by simp) (show Leads c ([] ++ reference.toList) d from h)
    hd visible fun _ _ => run_behind_of_mem plain

theorem run_link {k : Follow Match} {link : String} (plain : PlainField link)
    (h : Leads c (' ' :: link.toList) d) {stop : Char} (hd : d.rest.head? = some stop)
    (visible : Text.isBlank stop = false) :
    ∃ s : Span, s.text = link ∧ ∀ {caps : Captures} {r : Match},
      run behindLink k d ((2, s) :: caps) = some r →
        run (all (field 2 [',', '(', ')'] behindLink)) k c caps = some r :=
  run_field 2 plain (not_mem_ends plain) (by simp; decide)
    (show Leads c ([' '] ++ link.toList) d from h) hd visible fun _ _ => run_behind_of_mem plain

theorem run_id {k : Follow Match} {id : String} (plain : PlainField id)
    (h : Leads c (' ' :: id.toList) d) {e : Cursor} (close : Leads d [')'] e) :
    ∃ s : Span, s.text = id ∧ ∀ {caps : Captures} {r : Match},
      k e ((3, s) :: caps) = some r →
        run (all (field 3 ['(', ')'] (char ')'))) k c caps = some r := by
  have free (x : Char) (hx : x ∈ id.toList) : x ∉ ['(', ')'] := fun mem =>
    not_mem_ends plain x hx (List.mem_cons_of_mem ',' mem)
  have refused (e : Cursor) (caps : Captures) (h : ∃ x ∈ e.rest.head?, x ∈ id.toList) :
      run (char ')') k e caps = none := by
    obtain ⟨x, hx, mem⟩ := h
    refine Pattern.run_char_eq_none fun y hy same => ?_
    obtain rfl := Option.some.inj (hx.symm.trans hy)
    exact plain.noClose (same ▸ mem)
  obtain ⟨s, text, run⟩ := run_field 3 plain free (by simp; decide)
    (show Leads c ([' '] ++ id.toList) d from h) (by rw [close.rest]; rfl) (by decide) refused
  exact ⟨s, text, fun done => run (Pattern.run_char_eq_some.mpr ⟨e, close, done⟩)⟩

theorem deviation_eq : deviation.standard = all ([.anchor .wordEdge] ++
    ("DEVIATION".toList ++ ['(']).map char ++ field 1 [',', '(', ')'] behindReference) := rfl

theorem matchAt_deviation {c₀ : Cursor} {r : Match} (space : c.before.all (· == ' ') = true)
    (opening : Leads c ("DEVIATION".toList ++ ['(']) c₀)
    (fields : run (all (field 1 [',', '(', ')'] behindReference))
      (fun d caps => some ⟨⟨c, d⟩, caps⟩) c₀ [] = some r) :
    deviation.standard.matchAt c = some r := by
  have edge := edge_holds space (x := 'D') (by rw [opening.rest]; rfl) (by decide)
  rw [Pattern.matchAt, deviation_eq]
  exact Pattern.run_opening_eq_some.mpr ⟨edge, c₀, opening, fields⟩

theorem exists_matchAt_deviation {reference : String} (plain : PlainField reference)
    (space : c.before.all (· == ' ') = true)
    (h : Leads c (WrittenTag.deviation reference).write.toList d) :
    ∃ m, deviation.standard.matchAt c = some m ∧ m.span.stop = d ∧
      m.group? 1 = some reference ∧ m.group? 2 = none ∧ m.group? 3 = none := by
  have written : (WrittenTag.deviation reference).write.toList =
      ("DEVIATION".toList ++ ['(']) ++ (reference.toList ++ [')']) := by
    simp [write, word, fields, bracket]
  rw [written] at h
  obtain ⟨c₀, opening, h⟩ := h.exists_between
  obtain ⟨c₁, inner, close⟩ := h.exists_between
  obtain ⟨s, rfl, done⟩ := run_reference plain inner (by rw [close.rest]; rfl) (by decide)
  refine ⟨⟨⟨c, d⟩, [(1, s)]⟩, matchAt_deviation space opening ?_, rfl, rfl, rfl, rfl⟩
  exact done (run_behind_of_bracket close rfl)

theorem exists_matchAt_linkedDeviation {reference link : String} (plain : PlainField reference)
    (plainLink : PlainField link) (space : c.before.all (· == ' ') = true)
    (h : Leads c (WrittenTag.linkedDeviation reference link).write.toList d) :
    ∃ m, deviation.standard.matchAt c = some m ∧ m.span.stop = d ∧
      m.group? 1 = some reference ∧ m.group? 2 = some link ∧ m.group? 3 = none := by
  have written : (WrittenTag.linkedDeviation reference link).write.toList =
      ("DEVIATION".toList ++ ['(']) ++
        (reference.toList ++ ',' :: (' ' :: link.toList ++ [')'])) := by
    simp [write, word, fields, bracket]
  rw [written] at h
  obtain ⟨c₀, opening, h⟩ := h.exists_between
  obtain ⟨c₁, inner, h⟩ := h.exists_between
  obtain ⟨c₂, comma, h⟩ := h.exists_step
  obtain ⟨c₃, innerLink, close⟩ := h.exists_between
  obtain ⟨s, rfl, done⟩ := run_reference plain inner (by rw [comma.rest]; rfl) (by decide)
  obtain ⟨s', rfl, done'⟩ := run_link plainLink innerLink (by rw [close.rest]; rfl) (by decide)
  refine ⟨⟨⟨c, d⟩, [(2, s'), (1, s)]⟩, matchAt_deviation space opening ?_, rfl, rfl, rfl, rfl⟩
  exact done (run_behind_of_comma comma (done' (run_behind_of_bracket close rfl)))

theorem exists_matchAt_scopedDeviation {reference link id : String} (plain : PlainField reference)
    (plainLink : PlainField link) (plainId : PlainField id)
    (space : c.before.all (· == ' ') = true)
    (h : Leads c (WrittenTag.scopedDeviation reference link id).write.toList d) :
    ∃ m, deviation.standard.matchAt c = some m ∧ m.span.stop = d ∧
      m.group? 1 = some reference ∧ m.group? 2 = some link ∧ m.group? 3 = some id := by
  have written : (WrittenTag.scopedDeviation reference link id).write.toList =
      ("DEVIATION".toList ++ ['(']) ++ (reference.toList ++
        ',' :: (' ' :: link.toList ++ ',' :: (' ' :: id.toList ++ [')']))) := by
    simp [write, word, fields, bracket]
  rw [written] at h
  obtain ⟨c₀, opening, h⟩ := h.exists_between
  obtain ⟨c₁, inner, h⟩ := h.exists_between
  obtain ⟨c₂, comma, h⟩ := h.exists_step
  obtain ⟨c₃, innerLink, h⟩ := h.exists_between
  obtain ⟨c₄, comma', h⟩ := h.exists_step
  obtain ⟨c₅, innerId, close⟩ := h.exists_between
  obtain ⟨s, rfl, done⟩ := run_reference plain inner (by rw [comma.rest]; rfl) (by decide)
  obtain ⟨s', rfl, done'⟩ := run_link plainLink innerLink (by rw [comma'.rest]; rfl) (by decide)
  obtain ⟨s'', rfl, done''⟩ := run_id plainId innerId close
  refine ⟨⟨⟨c, d⟩, [(3, s''), (2, s'), (1, s)]⟩, matchAt_deviation space opening ?_,
    rfl, rfl, rfl, rfl⟩
  exact done (run_behind_of_comma comma (done' (run_behind_of_comma comma' (done'' rfl))))

theorem reads_deviation :
    Reads deviation.standard CommentTags.deviationTag WrittenTag.deviation? where
  text := by decide
  starts h := by
    obtain ⟨rest, split⟩ := Pattern.prefix_of_matchAt_opening deviation_eq h
    exact ⟨'D', by simp [← split], by decide⟩
  own {t b ts c d} plain hb space h hd := by
    cases t with
    | deviation reference =>
      have plain := plain reference List.mem_cons_self
      obtain ⟨m, found, stop, first, second, third⟩ := exists_matchAt_deviation plain space h
      refine ⟨m, found, stop, ?_⟩
      have reference := field?_eq_present? first plain.trimmed
      have link := field?_eq_none second
      simpa [CommentTags.deviationTag, reference, link, CommentTags.scope, third,
        WrittenTag.deviation?] using hb
    | linkedDeviation reference link =>
      have plainReference := plain reference (by simp [fields])
      have plainLink := plain link (by simp [fields])
      obtain ⟨m, found, stop, first, second, third⟩ :=
        exists_matchAt_linkedDeviation plainReference plainLink space h
      refine ⟨m, found, stop, ?_⟩
      have reference := field?_eq_present? first plainReference.trimmed
      have link := field?_eq_present? second plainLink.trimmed
      simpa [CommentTags.deviationTag, reference, link, CommentTags.scope, third,
        WrittenTag.deviation?] using hb
    | scopedDeviation reference link id =>
      have plainReference := plain reference (by simp [fields])
      have plainLink := plain link (by simp [fields])
      have plainId := plain id (by simp [fields])
      obtain ⟨m, found, stop, first, second, third⟩ :=
        exists_matchAt_scopedDeviation plainReference plainLink plainId space h
      refine ⟨m, found, stop, ?_⟩
      have reference := field?_eq_present? first plainReference.trimmed
      have link := field?_eq_present? second plainLink.trimmed
      simpa [CommentTags.deviationTag, reference, link, CommentTags.scope, third, plainId.trimmed,
        WrittenTag.deviation?] using hb
    | _ => cases hb
  other {t v ts c} plain empty r hc := by
    have absent (ends : ¬ "DEVIATION".toList <:+ t.word.toList) :
        deviation.standard.matchAt c = none :=
      matchAt_eq_none_of_word deviation_eq (by decide) (by decide) (by decide) (by decide) plain
        ends r hc
    cases t with
    | guideline id => exact absent (by simp only [word]; decide)
    | falsePositives => exact absent (by simp only [word]; decide)
    | falsePositive id => exact absent (by simp only [word]; decide)
    | _ => cases empty

end GuidelineCompliance.TagFamily
