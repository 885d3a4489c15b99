import GuidelineCompliance.Proofs.BadInputs
import GuidelineCompliance.Proofs.CapturedText
import GuidelineCompliance.Proofs.Groups
import GuidelineCompliance.Proofs.LogText
import GuidelineCompliance.Proofs.TagEffects
import GuidelineCompliance.Proofs.Trimming

/-! Where the ids of kept comments come from. An id is written in a tag of a comment in some source
text, or else the analyzer reads it out of the comment, and what an analyzer reads is a number or an
entry of its reference document. So a line feed in an id was there before. -/

namespace GuidelineCompliance

namespace Pattern

variable {p : Pattern} {m : Match}

theorem mem_of_mem_group? {text : String} (h : m ∈ p.findAll text) {group : Nat} {taken : String}
    (hg : m.group? group = some taken) {x : Char} (hx : x ∈ taken.toList) : x ∈ text.toList := by
  obtain ⟨s, hs, rfl⟩ := Option.map_eq_some_iff.mp hg
  obtain old | within := (takes_of_mem_findAllFrom h).within (Match.mem_captures_of_span? hs)
  · cases old
  obtain ⟨u, toMatch, -⟩ := exists_leads_of_mem_findAllFrom h
  obtain ⟨v, toGroup⟩ := within.before
  obtain ⟨w, inner⟩ := within.inner
  have whole : text.toList = (u ++ v) ++ (w ++ s.stop.rest) := by
    rw [← inner.rest]
    exact (toMatch.trans toGroup).rest
  have chars : x ∈ w := by
    rw [← inner.chars]
    simpa [Span.text] using hx
  rw [whole]
  exact List.mem_append_right _ (List.mem_append_left _ chars)

end Pattern

namespace CommentTags

theorem exists_of_mem_guidelines {tags : TagPatterns} {text id : String}
    (h : id ∈ (ofComment tags text).guidelines) :
    ∃ m ∈ tags.guideline.findAll text, ∃ field, m.group? 1 = some field ∧ id = Text.trim field := by
  obtain ⟨m, hm, read⟩ := List.mem_filterMap.mp (List.mem_eraseDups.mp h)
  obtain ⟨trimmed, -⟩ := Option.filter_eq_some_iff.mp read
  obtain ⟨field, taken, rfl⟩ := Option.map_eq_some_iff.mp trimmed
  exact ⟨m, hm, field, taken, rfl⟩

theorem mem_text_of_mem_guidelines {tags : TagPatterns} {text id : String}
    (h : id ∈ (ofComment tags text).guidelines) {x : Char} (hx : x ∈ id.toList) :
    x ∈ text.toList := by
  obtain ⟨m, hm, field, taken, rfl⟩ := exists_of_mem_guidelines h
  exact Pattern.mem_of_mem_group? hm taken (Text.mem_of_mem_trim hx)

end CommentTags

namespace Assessment

theorem mem_suppressed_of_readComment {a : Assessment} {file : String} {line : Nat} {text : String}
    {c : Comment} (h : (a.readComment file line text).1 = some c) :
    c.file = file ∧ ∀ id ∈ c.guidelines,
      id ∈ suppressed a.reader (CommentTags.ofComment a.tags text) text := by
  obtain rfl := eq_of_readComment h
  refine ⟨rfl, fun id hid => List.mem_eraseDups.mp ?_⟩
  simpa [Comment.guidelines, CommentTags.suppression, resolved] using hid

theorem mem_of_mem_locate {finder : LineFinder} {texts : List String} {line : Nat} {text : String}
    (h : (line, text) ∈ locate finder texts) : text ∈ texts := by
  fun_induction locate finder texts with
  | case1 => cases h
  | case2 finder t texts n next found ih =>
    obtain same | later := List.mem_cons.mp h
    · cases same
      exact List.mem_cons_self
    · exact List.mem_cons_of_mem _ (ih later)
  | case3 finder t texts found ih =>
    obtain same | later := List.mem_cons.mp h
    · cases same
      exact List.mem_cons_self
    · exact List.mem_cons_of_mem _ (ih later)

end Assessment

inductive Operation.TakesIn : Operation → String → String → Prop where
  | sources {files : List String} {sources : Sources} {file source : String} (listed : file ∈ files)
    (read : sources file = .ok source) : TakesIn (.ingest (.sources files sources)) file source

namespace Assessment

/-- A comment of a source text, with what its tags and the analyzer say that it suppresses. -/
structure ReadFrom (a : Assessment) (source text : String) (c : Comment) : Prop where
  found : text ∈ a.reader.comments source
  ids : ∀ id ∈ c.guidelines, id ∈ suppressed a.reader (CommentTags.ofComment a.tags text) text

theorem exists_readFrom_of_mem_readComments {a : Assessment} {file source : String} {c : Comment}
    (h : c ∈ (a.readComments file source).1) :
    c.file = file ∧ ∃ text, a.ReadFrom source text c := by
  obtain ⟨⟨kept, faults⟩, read, same⟩ := List.mem_filterMap.mp h
  obtain ⟨⟨line, text⟩, located, eq⟩ := List.mem_map.mp read
  have first : (a.readComment file line text).1 = some c := (congrArg Prod.fst eq).trans same
  obtain ⟨sameFile, ids⟩ := mem_suppressed_of_readComment first
  exact ⟨sameFile, text, mem_of_mem_locate located, ids⟩

theorem exists_takesIn_of_mem_perform {a : Assessment} {op : Operation} {c : Comment}
    (h : c ∈ (a.perform op).comments) :
    c ∈ a.comments ∨ ∃ source text, op.TakesIn c.file source ∧ a.ReadFrom source text c := by
  cases op with
  | plan lines =>
    rw [perform, applyPlan_eq] at h
    exact Or.inl h
  | ingest i =>
    rw [perform, ingest_eq_extend] at h
    obtain old | new := List.mem_append.mp h
    · exact Or.inl old
    right
    obtain ⟨o, ho, hc⟩ := List.mem_flatMap.mp new
    obtain ⟨x, hx, rfl⟩ := List.mem_map.mp ho
    rw [List.flatMap_singleton] at hx
    cases i with
    | warnings lines =>
      obtain ⟨line, -, rfl⟩ := List.mem_map.mp hx
      cases hc
    | sources files sources =>
      obtain ⟨file, listed, rfl⟩ := List.mem_map.mp hx
      simp only [itemOutcome] at hc
      cases read : sources file with
      | error reason =>
        rw [read] at hc
        cases hc
      | ok source =>
        rw [read] at hc
        obtain ⟨rfl, text, from'⟩ := exists_readFrom_of_mem_readComments hc
        exact ⟨source, text, .sources listed read, from'⟩

theorem tags_perform (a : Assessment) (op : Operation) : (a.perform op).tags = a.tags := by
  cases op with
  | plan lines => rw [perform, applyPlan_eq, applyChanges]
  | ingest i => rw [perform, ingest_eq_extend, extend]

theorem tool_perform (a : Assessment) (op : Operation) : (a.perform op).tool = a.tool := by
  cases op with
  | plan lines => rw [perform, applyPlan_eq, applyChanges]
  | ingest i => rw [perform, ingest_eq_extend, extend]

theorem tool_performAll (a : Assessment) (ops : List Operation) :
    (a.performAll ops).tool = a.tool := by
  induction ops generalizing a with
  | nil => rfl
  | cons op ops ih =>
    rw [performAll, List.foldl_cons, ← performAll, ih, tool_perform]

theorem exists_takesIn_of_mem_performAll {a : Assessment} {ops : List Operation} {c : Comment}
    (h : c ∈ (a.performAll ops).comments) :
    c ∈ a.comments ∨ ∃ op ∈ ops, ∃ source text,
      op.TakesIn c.file source ∧ a.ReadFrom source text c := by
  induction ops generalizing a with
  | nil => exact Or.inl h
  | cons op ops ih =>
    rw [performAll, List.foldl_cons, ← performAll] at h
    obtain early | ⟨later, mem, source, text, takes, ⟨found, ids⟩⟩ := ih h
    · obtain old | ⟨source, text, takes, from'⟩ := exists_takesIn_of_mem_perform early
      · exact Or.inl old
      · exact Or.inr ⟨op, List.mem_cons_self, source, text, takes, from'⟩
    · rw [reader_perform] at found
      rw [reader_perform, tags_perform] at ids
      exact Or.inr ⟨later, List.mem_cons_of_mem _ mem, source, text, takes, found, ids⟩

end Assessment

end GuidelineCompliance
