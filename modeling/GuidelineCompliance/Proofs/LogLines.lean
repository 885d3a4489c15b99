import GuidelineCompliance.Proofs.CommentIds
import GuidelineCompliance.Proofs.CommentLines

/-! The lines of the audit log of a run with a known analyzer. Each entry is one of them unless an
id has a line feed in it, and such an id was written in a tag of a comment over several lines or in
an option of the reference document. -/

namespace GuidelineCompliance

open Text

theorem Cppcheck.isLine_of_mem_guidelines {text id : String}
    (h : id ∈ (guidelines text).getD []) : IsLine id := by
  obtain ⟨m, found, rfl⟩ : ∃ m, rulePattern.find? text = some m ∧ ruleId (m.group 1) = id := by
    simpa [guidelines] using h
  have word : IsLine "Rule " := by decide
  have feedless : ∀ part ∈ rulePattern.parts, ∀ s ∈ part.2.sets, s.mem '\n' = false := by decide
  refine isLine_append.mpr ⟨word, fun feed => ?_⟩
  obtain ⟨part, mem, -, s, hs, takes⟩ :=
    Pattern.mem_sets_of_mem_group (Pattern.takes_of_findFrom found) feed
  simp [feedless part mem s hs] at takes

theorem PcLint.exists_mem_of_mem_guidelines {table : CodeTable} {text id : String}
    (h : id ∈ (guidelines table text).getD []) : ∃ code, (code, id) ∈ table := by
  cases read : guidelines table text with
  | none => simp [read] at h
  | some ids =>
    rw [read, Option.getD_some] at h
    obtain ⟨entries, looked, same⟩ := Option.bind_eq_some_iff.mp read
    cases same
    obtain ⟨group, hgroup, hid⟩ := List.mem_flatten.mp (List.mem_eraseDups.mp h)
    obtain ⟨digits, -, found⟩ := exists_of_mem_of_mapM_eq_some looked hgroup
    obtain ⟨code, -, listed⟩ := Option.bind_eq_some_iff.mp found
    unfold CodeTable.guidelines? at listed
    split at listed
    · cases listed
    · cases listed
      obtain ⟨entry, mem, rfl⟩ := List.mem_map.mp hid
      exact ⟨entry.1, (List.mem_filter.mp mem).1⟩

theorem Operation.TakesIn.eq_of_singleton {file file' source : String} {sources : Sources}
    (h : TakesIn (.ingest (.sources [file] sources)) file' source) :
    file' = file ∧ sources file' = .ok source := by
  cases h with
  | sources listed read => exact ⟨List.mem_singleton.mp listed, read⟩

namespace Assessment

theorem reader_of_begin {s : Setup} {a : Assessment} (h : begin s = .ok a) :
    ∃ analyzer, s.analyzer = some analyzer ∧ a.tool = analyzer.name ∧ a.tags = s.tags ∧
      a.reader = analyzer.reader a.edition a.reference := by
  obtain ⟨analyzer, edition, references, catalog, tags⟩ := s
  cases analyzer with
  | none => cases h
  | some analyzer =>
    simp only [begin] at h
    split at h
    · cases h
    · cases references with
      | none =>
        cases catalog with
        | none => cases h
        | some given => cases h; exact ⟨analyzer, rfl, rfl, rfl, rfl⟩
      | some read =>
        simp only at h
        cases hr : read edition with
        | error e => rw [hr] at h; cases h
        | ok text =>
          rw [hr] at h
          cases catalog with
          | none => cases h; exact ⟨analyzer, rfl, rfl, rfl, rfl⟩
          | some given => cases h; exact ⟨analyzer, rfl, rfl, rfl, rfl⟩

/-- An id with a line feed was in a tag of the comment, or in the reference document that PC-Lint's
codes are read from. -/
theorem origin_of_feed {a : Assessment} {analyzer : Analyzer} (known : analyzer ∈ Analyzer.known)
    (reads : a.reader = analyzer.reader a.edition a.reference) {text id : String}
    (h : id ∈ suppressed a.reader (CommentTags.ofComment a.tags text) text) (feed : ¬ IsLine id) :
    ¬ IsLine text ∧ id ∈ (CommentTags.ofComment a.tags text).guidelines ∨
      analyzer.name = "PC-Lint" ∧ ∃ code, (code, id) ∈ PcLint.codeTable a.reference := by
  have feed' : '\n' ∈ id.toList := not_not.mp feed
  unfold suppressed at h
  split at h
  · right
    obtain rfl | rfl : analyzer = PcLint.analyzer ∨ analyzer = Cppcheck.analyzer := by
      simpa [Analyzer.known] using known
    · rw [reads] at h
      exact ⟨rfl, PcLint.exists_mem_of_mem_guidelines h⟩
    · rw [reads] at h
      exact absurd (Cppcheck.isLine_of_mem_guidelines h) feed
  · exact Or.inl ⟨fun line => line (CommentTags.mem_text_of_mem_guidelines h feed'), h⟩

theorem log_lines_iff {setup : Setup} {analyzer : Analyzer} (known : analyzer ∈ Analyzer.known)
    (chosen : setup.analyzer = some analyzer) {a : Assessment} (begun : begin setup = .ok a)
    {ops : List Operation}
    (named : ∀ op ∈ ops, ∀ file source, op.TakesIn file source → IsLine file) :
    let b := a.performAll ops
    (split '\n' b.auditLog = b.auditEntries.map AuditEntry.text ++ [""] ↔
      ∀ c ∈ b.comments, ∀ id ∈ c.shown b.catalog, IsLine id) ∧
    ∀ c ∈ b.comments, ∀ id ∈ c.guidelines, ¬ IsLine id →
      (∃ op ∈ ops, ∃ source, op.TakesIn c.file source ∧ ∃ text ∈ a.reader.comments source,
        ¬ IsLine text ∧ id ∈ (CommentTags.ofComment setup.tags text).guidelines) ∨
      analyzer.name = "PC-Lint" ∧ ∃ code, (code, id) ∈ PcLint.codeTable a.reference := by
  intro b
  obtain ⟨-, -, empty⟩ := nothing_found_of_begin begun
  obtain ⟨analyzer', chosen', tool, tags, reads⟩ := reader_of_begin begun
  obtain rfl : analyzer = analyzer' := Option.some.inj (chosen.symm.trans chosen')
  have origin (c : Comment) (hc : c ∈ b.comments) : ∃ op ∈ ops, ∃ source text,
      op.TakesIn c.file source ∧ a.ReadFrom source text c := by
    obtain old | new := exists_takesIn_of_mem_performAll hc
    · rw [empty] at old
      cases old
    · exact new
  refine ⟨split_auditLog_iff ?_ fun c hc => ?_, fun c hc id hid feed => ?_⟩
  · have lines : ∀ analyzer ∈ Analyzer.known, IsLine analyzer.name := by
      simp only [Analyzer.known]
      decide
    rw [tool_performAll, tool]
    exact lines analyzer known
  · obtain ⟨op, hop, source, text, takes, -⟩ := origin c hc
    exact named op hop _ _ takes
  · obtain ⟨op, hop, source, text, takes, found, ids⟩ := origin c hc
    obtain ⟨spans, tagged⟩ | table := origin_of_feed known reads (ids id hid) feed
    · exact Or.inl ⟨op, hop, source, takes, text, found, spans, tags ▸ tagged⟩
    · exact Or.inr table

/-- An option of the reference document over two lines. The comment itself is one line. -/
theorem not_log_lines_of_option_over_lines :
    let reference := "/*** Rule 1.1 (adv) ***/ -append(961,[MISRA 2012 Rule 1.1\n(b), advisory])"
    let a := pcLintOver reference
    let ops : List Operation := [.ingest (.sources ["a.c"] fun _ => .ok "//lint -e961")]
    let b := a.performAll ops
    (∀ op ∈ ops, ∀ file source, op.TakesIn file source → IsLine file) ∧
      split '\n' b.auditLog ≠ b.auditEntries.map AuditEntry.text ++ [""] ∧
      ∃ code, (code, "Rule 1.1\n(b)") ∈ PcLint.codeTable reference := by
  intro reference a ops b
  let setup : Setup :=
    { analyzer := some PcLint.analyzer, references := some fun _ => .ok reference }
  have begun : begin setup = .ok a := rfl
  have named : ∀ op ∈ ops, ∀ file source, op.TakesIn file source → IsLine file := by
    intro op hop file source takes
    obtain rfl := List.mem_singleton.mp hop
    obtain ⟨rfl, -⟩ := takes.eq_of_singleton
    decide
  obtain ⟨iff, origin⟩ := log_lines_iff (List.mem_cons_self ..) rfl begun named
  have shown : ¬ ∀ c ∈ b.comments, ∀ id ∈ c.shown b.catalog, IsLine id := by decide +kernel
  have kept : ∃ c ∈ b.comments, "Rule 1.1\n(b)" ∈ c.guidelines := by decide +kernel
  obtain ⟨c, hc, hid⟩ := kept
  refine ⟨named, mt iff.mp shown, ?_⟩
  obtain ⟨op, hop, source, takes, text, found, spans, -⟩ | ⟨-, table⟩ :=
    origin c hc _ hid (by decide)
  · obtain rfl := List.mem_singleton.mp hop
    obtain ⟨-, read⟩ := takes.eq_of_singleton
    cases read
    have lines : ∀ text ∈ a.reader.comments "//lint -e961", IsLine text := by decide +kernel
    exact absurd (lines text found) spans
  · exact table

/-- A tag over two lines makes one entry two lines of the log. -/
theorem not_forall_log_lines :
    ¬ ∀ (setup : Setup) (analyzer : Analyzer) (a : Assessment) (ops : List Operation),
      analyzer ∈ Analyzer.known → setup.analyzer = some analyzer → begin setup = .ok a →
      (∀ op ∈ ops, ∀ file source, op.TakesIn file source → IsLine file) →
      split '\n' (a.performAll ops).auditLog =
        (a.performAll ops).auditEntries.map AuditEntry.text ++ [""] := by
  intro lines
  have pieces := lines
    { analyzer := some PcLint.analyzer, references := some fun _ => .ok "/*** Rule 1.1 (adv) ***/" }
    PcLint.analyzer (pcLintOver "/*** Rule 1.1 (adv) ***/")
    [.ingest (.sources ["a.c"] fun _ => .ok "/*lint GUIDELINE(Rule 9\n9) */")]
    (List.mem_cons_self ..) rfl rfl ?_
  · revert pieces
    decide +kernel
  · intro op hop file source takes
    obtain rfl := List.mem_singleton.mp hop
    obtain ⟨rfl, -⟩ := takes.eq_of_singleton
    decide

end Assessment

end GuidelineCompliance
