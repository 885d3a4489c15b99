import GuidelineCompliance.Proofs.AlignedRuns
import GuidelineCompliance.Proofs.LineComments
import GuidelineCompliance.Proofs.OptionLists

/-! Line endings in PC-Lint comments. A comment is found alike in a text and in the same text with a
carriage return in front of every line feed, and so are the options in it. A line comment ends in
front of its line ending, and a block comment has the line endings of the text in it. -/

namespace GuidelineCompliance

open Text

namespace Pattern

variable {c c' d d' e : Cursor}

inductive EndsLine : Cursor → Prop where
  | ended {d : Cursor} (ended : d.rest = []) : EndsLine d
  | feed {d e : Cursor} (feed : Leads d ['\n'] e) (other : d.before ≠ some '\r') : EndsLine d
  | crlf {d e f : Cursor} (ret : Leads d ['\r'] e) (feed : Leads e ['\n'] f) : EndsLine d

theorem EndsLine.holds (h : EndsLine d) :
    Anchor.freeLineEnd.holds d.before d.rest.head? = true := by
  cases h with
  | ended ended => simp [Anchor.holds, ended]
  | feed feed other => simp [Anchor.holds, feed.rest, other]
  | crlf ret feed => simp [Anchor.holds, ret.rest]

/-- Of the places in front of the line feed it is the last one at which the anchor holds, which does
not hold between a carriage return and its line feed. -/
theorem EndsLine.last (h : EndsLine d) {more : List Char} (ahead : Leads d more e)
    (nonempty : more ≠ []) (free : '\n' ∉ more) :
    Anchor.freeLineEnd.holds e.before e.rest.head? = false := by
  obtain ⟨x, more, rfl⟩ := List.exists_cons_of_ne_nil nonempty
  cases h with
  | ended ended => simpa [ended] using ahead.rest
  | feed feed other =>
    obtain ⟨rfl, -⟩ := List.cons.inj (feed.rest.symm.trans ahead.rest)
    simp at free
  | crlf ret feed =>
    obtain ⟨rfl, -⟩ := List.cons.inj (ret.rest.symm.trans ahead.rest)
    obtain ⟨g', one, later⟩ := ahead.exists_step
    obtain rfl := one.unique ret
    cases more with
    | nil =>
      obtain rfl := later.unique (.refl _)
      simp [Anchor.holds, ret.before, feed.rest]
    | cons y more =>
      obtain ⟨rfl, -⟩ := List.cons.inj (feed.rest.symm.trans later.rest)
      simp at free

theorem Aligned.endsLine (h : Aligned c c') {body : List Char} (along : Stretch body c c' d d')
    (here : c.rest.head? ≠ some '\n') (stop : ∀ x ∈ d.rest.head?, x = '\n') :
    EndsLine d ∧ EndsLine d' := by
  cases h.stretch along with
  | ended left right => exact ⟨.ended left, .ended right⟩
  | char other plain left right ahead => exact absurd (stop _ (by rw [left.rest]; rfl)) other
  | feed left ret right ahead =>
    refine ⟨.feed left fun back => ?_, .crlf ret right⟩
    rw [along.left.before] at back
    cases last : body.getLast? with
    | none =>
      obtain rfl := List.getLast?_eq_none_iff.mp last
      rw [along.left.unique (.refl c)] at left
      exact here (by simp [left.rest])
    | some x =>
      obtain rfl : x = '\r' := by simpa [last] using back
      exact along.plain (List.mem_of_getLast? last)

end Pattern

namespace PcLint

open Pattern

section Options

variable {α : Type} {r : α → α → Prop} {k k' : Follow α} {c c' : Cursor} {caps caps' : Captures}

/-- What follows a code is read alike. Neither the bracket that ends the arguments nor the end of an
option is found between a carriage return and its line feed. -/
theorem agree_run_optionEnd (total : Total k) (h : Aligned c c') (agree : Agree r k k' c c') :
    Agree r (run optionEnd k) (run optionEnd k') c c' := by
  have blanks : Agree r (run (many .blank) k) (run (many .blank) k') c c' :=
    agree_run_many (by decide) (by decide) total h agree
  have close : Agree r (run (all [char ')', many .blank]) k) (run (all [char ')', many .blank]) k')
      c c' := Indifferent.char (by decide) (by decide) h blanks
  have arguments : Agree r (run (all [many (.noneOf [')']), char ')', many .blank]) k)
      (run (all [many (.noneOf [')']), char ')', many .blank]) k') c c' :=
    fun _ _ _ _ _ along alike => rel_run_star true (by decide)
      (fun _ e caps feed => run_char_eq_none (by simp [feed])) (h.stretch along)
      (close.ahead along) alike
  have comma := Indifferent.char (x := ',') (by decide) (by decide) h arguments
  have colon : Agree r
      (run (all [opt true (char ':'), char ',', many (.noneOf [')']), char ')', many .blank]) k)
      (run (all [opt true (char ':'), char ',', many (.noneOf [')']), char ')', many .blank]) k')
      c c' := (Indifferent.char (by decide) (by decide)).opt h comma
  exact colon.alt blanks

theorem rel_matchAt_option (h : Aligned c c') (before : c.before = none)
    (before' : c'.before = none) :
    Option.Rel AlikeMatch (optionPattern.matchAt c) (optionPattern.matchAt c') := by
  have ends : Agree AlikeMatch
      (run optionEnd fun d caps => some (⟨⟨c, d⟩, caps⟩ : Match))
      (run optionEnd fun d caps => some (⟨⟨c', d⟩, caps⟩ : Match)) c c' :=
    agree_run_optionEnd (fun _ _ => rfl) h (agree_matched h)
  have words : ∀ p ∈ optionWords.map Pattern.lit, Indifferent p := by
    refine List.forall_mem_map.mpr fun w hw => ?_
    have plain : ∀ w ∈ optionWords, '\n' ∉ w.toList ∧ '\r' ∉ w.toList := by decide
    exact .lit (plain w hw).1 (plain w hw).2
  have digits : Indifferent (.capture 1 (many1 .digit)) :=
    .capture (.many1 (by decide) (by decide))
  have code := digits h ends
  have word := (Indifferent.any words).opt h code
  have letter := Indifferent.char (x := 'e') (by decide) (by decide) h word
  have sign := Indifferent.set (s := .ofList ['-', '!']) (by decide) (by decide) h letter
  have opened {k : Follow Match} {c : Cursor} (before : c.before = none) :
      run optionPattern k c [] = run (all [.set (.ofList ['-', '!']), char 'e',
        anyOf? optionWords, .capture 1 (many1 .digit), optionEnd]) k c [] := by
    rw [optionPattern_eq, run_all_cons, run, if_pos (by simp [Anchor.holds, before])]
  rw [matchAt, matchAt, opened before, opened before']
  exact sign.here .nil

theorem optionCodes_nil (n : Nat) : optionCodes n [] = [] := by
  cases n with
  | zero => rfl
  | succ n =>
    rw [optionCodes, findFrom_textStart_eq optionPattern_eq,
      matchAt_of_rest_eq_nil (by decide) rfl]

theorem feed_not_mem_code {m : Match} (h : optionPattern.matchAt c = some m) :
    '\n' ∉ (m.group 1).toList := fun feed => by
  have feedless : ∀ part ∈ optionPattern.parts, ∀ s ∈ part.2.sets, s.mem '\n' = false := by decide
  obtain ⟨part, mem, -, s, hs, takes⟩ := mem_sets_of_mem_group (takes_of_matchAt h) feed
  rw [feedless part mem s hs] at takes
  cases takes

theorem optionCodes_withReturns {cs : List Char} (plain : '\r' ∉ cs) {n n' : Nat}
    (enough : cs.length ≤ n) (enough' : (withReturns cs).length ≤ n') :
    optionCodes n' (withReturns cs) = optionCodes n cs := by
  induction n generalizing cs n' with
  | zero =>
    obtain rfl : cs = [] := List.length_eq_zero_iff.mp (Nat.le_zero.mp enough)
    exact optionCodes_nil n'
  | succ n ih =>
    cases n' with
    | zero =>
      have le := length_le_withReturns cs
      obtain rfl : cs = [] := List.length_eq_zero_iff.mp (by omega)
      exact (optionCodes_nil (n + 1)).symm
    | succ n' =>
      have related : Option.Rel AlikeMatch (optionPattern.matchAt (.ofText cs))
          (optionPattern.matchAt (.ofText (withReturns cs))) :=
        rel_matchAt_option (aligned_of_rest plain rfl) rfl rfl
      rw [optionCodes, optionCodes, findFrom_textStart_eq optionPattern_eq,
        findFrom_textStart_eq optionPattern_eq]
      generalize found : optionPattern.matchAt (.ofText cs) = first at related ⊢
      generalize found' : optionPattern.matchAt (.ofText (withReturns cs)) = second at related ⊢
      cases related with
      | none => rfl
      | @some m m' alike =>
        -- Each round takes an option off both texts, so neither of them runs out of rounds.
        have fewer := length_rest_stop_lt (by decide) found
        have fewer' := length_rest_stop_lt (by decide) found'
        rw [Cursor.rest_ofText] at fewer fewer'
        rw [alike.stop.rest] at fewer'
        simp only
        rw [alike.group_eq (feed_not_mem_code found), alike.stop.rest,
          ih alike.stop.plain (by omega) (by omega)]

theorem guidelines_crlf (table : CodeTable) {comment : String} (plain : '\r' ∉ comment.toList) :
    guidelines table (crlf comment) = guidelines table comment := by
  rw [guidelines, guidelines, toList_crlf,
    optionCodes_withReturns plain (Nat.le_refl _) (Nat.le_refl _)]

end Options

section Comments

variable {α : Type} {r : α → α → Prop} {k k' : Follow α} {c c' d e : Cursor}
  {caps caps' : Captures}

def lineTail : Pattern := all [.capture 1 (many (.noneOf ['\n'])), .anchor .freeLineEnd]

def blockTail : Pattern := all [.capture 2 (few .all), .lit "*/"]

theorem commentPattern_eq : commentPattern =
    .alt (all [.lit "//lint", many .blank, lineTail])
      (all [.lit "/*lint", many1 .blank, blockTail]) := rfl

theorem run_lineTail_of_leads {body : List Char} {a : α} (leads : Leads c body d)
    (free : '\n' ∉ body) (ends : EndsLine d) (done : k d ((1, ⟨c, d⟩) :: caps) = some a) :
    run lineTail k c caps = some a := by
  rw [lineTail, run_all_cons, run_capture]
  refine run_many_of_last leads (forall_mem_noneOf.mpr free)
    (fun more e ahead nonempty within => ?_) (run_anchor_eq_some.mpr ⟨ends.holds, done⟩)
  rw [all, run, ends.last ahead nonempty (forall_mem_noneOf.mp within), if_neg Bool.false_ne_true]

theorem rel_run_lineTail (total : Total k) (h : Aligned c c')
    (here : c.rest.head? ≠ some '\n') (agree : Agree r k k' c c') (alike : Alike caps caps') :
    Option.Rel r (run lineTail k c caps) (run lineTail k' c' caps') := by
  obtain ⟨body, d, leads, taken, stop⟩ := exists_longest (.noneOf ['\n']) c
  obtain ⟨d', along⟩ := h.exists_stretch leads
  have free := forall_mem_noneOf.mp taken
  have leads' : Leads c' body d' := withReturns_eq_self free ▸ along.right
  obtain ⟨ends, ends'⟩ := h.endsLine along here (by simpa using stop)
  have captured : Alike ((1, ⟨c, d⟩) :: caps) ((1, ⟨c', d'⟩) :: caps') :=
    .cons ⟨rfl, body, along⟩ alike
  obtain ⟨a, b, left, right, same⟩ := exists_of_rel (agree along captured) (total d _)
  rw [run_lineTail_of_leads leads free ends left, run_lineTail_of_leads leads' free ends' right]
  exact .some same

theorem run_blockTail : run blockTail k c caps =
    run (few .all) (fun d caps => run (lit "*/") k d ((2, ⟨c, d⟩) :: caps)) c caps := rfl

/-- A block comment that has an end mark behind blanks has one from in front of them on. -/
theorem run_blockTail_eq_none (total : Total k) {blanks : List Char} (leads : Leads e blanks d)
    (blank : ∀ x ∈ blanks, Text.isBlank x = true) (fails : run blockTail k d caps = none) :
    run blockTail k e caps = none := by
  rw [Option.eq_none_iff_forall_ne_some]
  intro a found
  rw [run_blockTail] at found
  obtain ⟨body, f, inner, -, mark⟩ := exists_leads_of_run_few found
  obtain ⟨g, mark, -⟩ := run_lit_eq_some.mp mark
  obtain lt | le := Nat.lt_or_ge body.length blanks.length
  · obtain ⟨gap, rfl, later⟩ := inner.between leads (Nat.le_of_lt lt)
    cases gap with
    | nil => simp at lt
    | cons x gap =>
      have first : f.rest.head? = some '*' := by rw [mark.rest]; rfl
      obtain rfl : x = '*' := by simpa [later.rest] using first
      exact absurd (blank '*' (by simp)) (by decide)
  · obtain ⟨gap, rfl, later⟩ := leads.between inner le
    have ends : (run (lit "*/") k f ((2, ⟨d, f⟩) :: caps)).isSome = true := by
      obtain ⟨b, done⟩ := Option.isSome_iff_exists.mp (total g ((2, ⟨d, f⟩) :: caps))
      exact Option.isSome_iff_exists.mpr ⟨b, run_lit_eq_some.mpr ⟨g, mark, done⟩⟩
    have nonempty : (run blockTail k d caps).isSome = true := by
      rw [run_blockTail]
      exact isSome_run_few later (fun _ _ => rfl) ends
    simp [fails] at nonempty

theorem agree_run_blockTail (h : Aligned c c') (agree : Agree r k k' c c') :
    Agree r (run blockTail k) (run blockTail k') c c' := by
  have mark : Agree r (run (lit "*/") k) (run (lit "*/") k') c c' :=
    Indifferent.lit (by decide) (by decide) h agree
  intro taken d d' caps caps' along alike
  rw [run_blockTail, run_blockTail]
  refine rel_run_star false rfl (fun _ e caps feed => ?_) (h.stretch along) ?_ alike
  · exact run_lit_eq_none (x := '*') rfl (by simp [feed])
  · intro body f f' caps caps' further alike
    exact mark.ahead along further (.cons ⟨rfl, body, further⟩ alike)

theorem matchesAlike_commentPattern : MatchesAlike commentPattern := by
  intro c c' h
  let done (c : Cursor) : Follow Match := fun d caps => some ⟨⟨c, d⟩, caps⟩
  have total (c : Cursor) : Total (done c) := fun _ _ => rfl
  have ends : Agree AlikeMatch (done c) (done c') c c' := agree_matched h
  have line : Agree AlikeMatch (run (all [many .blank, lineTail]) (done c))
      (run (all [many .blank, lineTail]) (done c')) c c' := by
    intro taken d d' caps caps' along alike
    -- The blanks go on to a character that is no blank, and so no line feed.
    have here {d : Cursor} (stop : ∀ x ∈ d.rest.head?, Text.isBlank x = false) :
        d.rest.head? ≠ some '\n' := fun feed => absurd (stop '\n' feed) (by decide)
    refine rel_run_many (by decide) (by decide)
      (fun e stop => isSome_run_capture_to_line_end (here stop) (total c))
      (fun blanks e e' further stop => ?_) (h.stretch along)
    exact rel_run_lineTail (total c) (h.stretch (along.trans further)) (here stop)
      (ends.ahead (along.trans further)) alike
  have block : Agree AlikeMatch (run (all [many1 .blank, blockTail]) (done c))
      (run (all [many1 .blank, blockTail]) (done c')) c c' := fun _ _ _ _ _ along alike =>
    rel_run_many1 (by decide) (by decide) (fun _ _ _ => run_blockTail_eq_none (total c))
      (fun _ _ _ => run_blockTail_eq_none (total c')) (h.stretch along)
      ((agree_run_blockTail h ends).ahead along) alike
  have lines : Agree AlikeMatch (run (all [.lit "//lint", many .blank, lineTail]) (done c))
      (run (all [.lit "//lint", many .blank, lineTail]) (done c')) c c' :=
    Indifferent.lit (by decide) (by decide) h line
  have blocks : Agree AlikeMatch (run (all [.lit "/*lint", many1 .blank, blockTail]) (done c))
      (run (all [.lit "/*lint", many1 .blank, blockTail]) (done c')) c c' :=
    Indifferent.lit (by decide) (by decide) h block
  rw [matchAt, matchAt, commentPattern_eq]
  exact (lines.alt blocks).here .nil

theorem matchAt_comment_eq_none (feed : e.rest.head? = some '\n') :
    commentPattern.matchAt e = none := by
  rw [Option.eq_none_iff_forall_ne_some]
  intro m found
  have takes := takes_of_matchAt found
  rw [start_of_matchAt found] at takes
  obtain ⟨b, mark, -⟩ := Analyzer.FindsComments.pcLint.opensWith.exists_before takes
  simp [mark.rest] at feed

def kept? (m : Match) : Option String := (m.group? 1).or (m.group? 2)

theorem kept?_alike {m m' : Match} (h : AlikeMatch m m') :
    kept? m' = (kept? m).map crlf ∧ ∀ text ∈ kept? m, '\r' ∉ text.toList := by
  obtain ⟨line, plain⟩ := h.group? 1
  obtain ⟨block, plain'⟩ := h.group? 2
  refine ⟨by rw [kept?, kept?, line, block, Option.map_or], fun text ht => ?_⟩
  obtain first | ⟨-, second⟩ := Option.or_eq_some_iff.mp ht
  · exact plain text first
  · exact plain' text second

theorem filterMap_kept?_alike {ms ms' : List Match} (h : List.Forall₂ AlikeMatch ms ms') :
    ms'.filterMap kept? = (ms.filterMap kept?).map crlf ∧
      ∀ text ∈ ms.filterMap kept?, '\r' ∉ text.toList := by
  induction h with
  | nil => exact ⟨rfl, nofun⟩
  | @cons m m' ms ms' first later ih =>
    obtain ⟨text, plain⟩ := kept?_alike first
    obtain ⟨texts, plains⟩ := ih
    rw [List.filterMap_cons, List.filterMap_cons, text]
    cases kept : kept? m with
    | none => exact ⟨texts, plains⟩
    | some comment =>
      simp only [Option.map_some]
      refine ⟨by rw [texts, List.map_cons], List.forall_mem_cons.mpr ⟨?_, plains⟩⟩
      exact plain comment kept

theorem comments_crlf {source : String} (plain : '\r' ∉ source.toList) :
    comments (crlf source) = (comments source).map crlf ∧
      ∀ (table : CodeTable), ∀ comment ∈ comments source,
        guidelines table (crlf comment) = guidelines table comment := by
  have found := matchesAlike_commentPattern.findAll (fun _ => matchAt_comment_eq_none) (by decide)
    plain
  obtain ⟨texts, plains⟩ := filterMap_kept?_alike found
  exact ⟨texts, fun table comment mem => guidelines_crlf table (plains comment mem)⟩

theorem comments_crlf_of_both_forms :
    let source := "int a; //lint -e961\nint b; /*lint\n-e506 !e774\n*/\n"
    let table : CodeTable := [(506, "Rule 14.3"), (774, "Rule 14.3"), (774, "Rule 2.1")]
    comments (crlf source) = ["-e961", "-e506 !e774\x0d\n"] ∧
      guidelines table "-e506 !e774\x0d\n" = some ["Rule 14.3", "Rule 2.1"] := by
  intro source table
  have found : comments source = ["-e961", "-e506 !e774\n"] := by decide +kernel
  obtain ⟨texts, same⟩ := @comments_crlf source (by decide)
  rw [found] at texts same
  have text : crlf "-e506 !e774\n" = "-e506 !e774\x0d\n" := by decide
  refine ⟨texts.trans (by decide), ?_⟩
  rw [← text, same table _ (by decide)]
  decide +kernel

end Comments

end PcLint

end GuidelineCompliance
