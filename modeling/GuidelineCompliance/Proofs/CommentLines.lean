import GuidelineCompliance.Proofs.CapturedText
import GuidelineCompliance.Proofs.Ingestion
import GuidelineCompliance.Proofs.LineTable
import GuidelineCompliance.Proofs.TagEffects

/-! The lines of comments. A comment is handed over as a text, and its line is found by a search
for that text, which goes on behind the occurrence that was found for the comment before. The line
is right unless the text also occurs on an earlier line of the stretch in between. -/

namespace GuidelineCompliance

open Pattern (Cursor Span Leads Strung)

namespace LineFinder

variable {source : String} {f : LineFinder} {c d : Cursor} {passed : List Char}

theorem resume_cases {t : List Char} (h : Leads c t d) :
    resume c d = d ∨ t = [] ∧ ∃ x, Leads d [x] (resume c d) := by
  cases t with
  | cons x t => exact Or.inl (if_pos (h.offset_lt (List.cons_ne_nil x t)))
  | nil =>
    obtain rfl := h.unique (.refl c)
    rw [resume, if_neg (Nat.lt_irrefl _)]
    cases hn : d.next? with
    | none => exact Or.inl rfl
    | some e =>
      obtain ⟨x, one⟩ := Leads.next hn
      exact Or.inr ⟨rfl, x, one⟩

theorem exists_leads_to_resume {t : List Char} (h : Leads c t d) :
    ∃ v, Leads c v (resume c d) := by
  obtain same | ⟨-, x, one⟩ := resume_cases h
  · exact ⟨t, same.symm ▸ h⟩
  · exact ⟨t ++ [x], h.trans one⟩

theorem exists_leads_from_resume {e : Cursor} {t w : List Char} (h : Leads c t d)
    (hw : Leads d w e) (nonempty : w ≠ []) : ∃ v, Leads (resume c d) v e := by
  obtain same | ⟨-, x, one⟩ := resume_cases h
  · exact ⟨w, same.symm ▸ hw⟩
  · obtain ⟨v, -, hv⟩ := one.between hw (List.length_pos_iff.mpr nonempty)
    exact ⟨v, hv⟩

/-- The text of a stretch occurs at a place that the finder has not passed, on an earlier line. -/
def Shadowed (source : String) (f : LineFinder) (s : Span) : Prop :=
  ∃ passed c, Leads f.cursor passed c ∧ s.text.toList <+: c.rest ∧
    lineAt source c < lineAt source s.start

/-- What is true of a line that the finder answers for a stretch: it is the line of the first
occurrence of its text, and the finder does not pass what follows the stretch. -/
structure Answer (source : String) (f : LineFinder) (s : Span) (line : Nat) (g : LineFinder) :
    Prop where
  found : f.find? s.text = some (line, g)
  pos : 0 < line
  le : line ≤ lineAt source s.start
  exact_iff : line = lineAt source s.start ↔ ¬ Shadowed source f s
  searches : g.Searches source
  behind : ∀ {x gap e}, Leads s.stop (x :: gap) e → ∃ passed, Leads g.cursor passed e

theorem exists_answer (searches : f.Searches source) {s : Span}
    (before : Leads f.cursor passed s.start) {inner : List Char}
    (hs : Leads s.start inner s.stop) :
    ∃ line g, Answer source f s line g := by
  have text : s.text.toList = inner := by rw [Span.text, String.toList_ofList, hs.chars]
  have occurs : s.text.toList <+: s.start.rest := ⟨s.stop.rest, by rw [text, hs.rest]⟩
  obtain ⟨front, stands⟩ := searches.exists_leads
  obtain ⟨m, u, found, reaches, through, first⟩ := Pattern.exists_findFrom_lit before occurs
  have mono {v : List Char} {c : Cursor} (hv : Leads f.cursor v c)
      (here : s.text.toList <+: c.rest) : lineAt source m.span.start ≤ lineAt source c := by
    obtain ⟨gap, rfl, -⟩ := reaches.between hv (first v c hv here)
    rw [lineAt_add stands reaches, lineAt_add stands hv, List.count_append]
    omega
  have le := mono before occurs
  obtain ⟨after, hafter⟩ := exists_leads_to_resume through
  obtain ⟨moved, there⟩ := searches.move (reaches.trans hafter)
  have answered := searches.find?_eq s.text
  rw [found, Option.map_some] at answered
  refine ⟨_, _, answered, Nat.succ_pos _, le, ?_, moved, ?_⟩
  · constructor
    · rintro same ⟨v, c, hv, here, earlier⟩
      have := mono hv here
      omega
    · intro free
      have : ¬ lineAt source m.span.start < lineAt source s.start := fun earlier =>
        free ⟨u, m.span.start, reaches, ⟨m.span.stop.rest, through.rest.symm⟩, earlier⟩
      omega
  · intro x gap e later
    -- The occurrence has the length of the stretch and begins no later, so it ends no later.
    have shorter := first passed s.start before occurs
    rw [text] at through
    obtain ⟨w, -, hw⟩ := (reaches.trans through).between (before.trans hs) (by simpa using shorter)
    rw [there]
    exact exists_leads_from_resume through (hw.trans later) (by simp)

def trail : LineFinder → List Span → List (LineFinder × Span)
  | _, [] => []
  | f, s :: spans => (f, s) :: trail (((f.find? s.text).map Prod.snd).getD f) spans

theorem mem_of_mem_trail {spans : List Span} {g : LineFinder} {s : Span}
    (h : (g, s) ∈ trail f spans) : s ∈ spans := by
  induction spans generalizing f with
  | nil => cases h
  | cons t spans ih =>
    obtain here | later := List.mem_cons.mp h
    · cases here
      exact List.mem_cons_self
    · exact List.mem_cons_of_mem t (ih later)

def lineOf (f : LineFinder) (text : String) : Nat := ((f.find? text).map Prod.fst).getD 0

theorem Answer.lineOf_eq {s : Span} {line : Nat} {g : LineFinder} (h : Answer source f s line g) :
    f.lineOf s.text = line := by
  rw [lineOf, h.found]
  rfl

theorem exists_answer_of_mem_trail {spans : List Span} (searches : f.Searches source)
    (ahead : ∀ s ∈ spans.head?, ∃ passed, Leads f.cursor passed s.start) (strung : Strung c spans)
    {g : LineFinder} {s : Span} (h : (g, s) ∈ trail f spans) :
    ∃ line g', Answer source g s line g' := by
  induction strung generalizing f with
  | nil => cases h
  | @cons c t spans x gap inner before hs rest ih =>
    obtain ⟨passed, reaches⟩ := ahead t rfl
    obtain ⟨line, f', answer⟩ := exists_answer searches reaches hs
    obtain here | later := List.mem_cons.mp h
    · cases here
      exact ⟨line, f', answer⟩
    · -- The finder that answered for one stretch has not passed the next.
      rw [answer.found] at later
      refine ih answer.searches (fun s hs => ?_) later
      obtain ⟨y, gap, next⟩ := rest.before_head hs
      exact answer.behind next

end LineFinder

namespace Assessment

theorem line_of_readComment {a : Assessment} {file : String} {line : Nat} {text : String}
    {c : Comment} (h : (a.readComment file line text).1 = some c) : c.line = line := by
  rw [eq_of_readComment h]

theorem locate_eq_trail (f : LineFinder) (spans : List Span) :
    locate f (spans.map Span.text) =
      (f.trail spans).map fun (g, s) => (g.lineOf s.text, s.text) := by
  induction spans generalizing f with
  | nil => rfl
  | cons s spans ih =>
    simp only [List.map_cons, locate, LineFinder.trail, LineFinder.lineOf]
    cases f.find? s.text with
    | none => simp [ih, LineFinder.lineOf]
    | some found => simp [ih, LineFinder.lineOf]

/-- A comment that is kept, the stretch that it was read from, and the finder that was asked for
its line. -/
structure Kept where
  finder : LineFinder
  span : Span
  comment : Comment

def kept (a : Assessment) (p : Pattern) (file source : String) : List Kept :=
  ((LineFinder.ofText source).trail (p.captured source)).filterMap fun (f, s) =>
    (a.readComment file (f.lineOf s.text) s.text).1.map (Kept.mk f s)

def keptOf (a : Assessment) (p : Pattern) (sources : Sources) (file : String) : List Kept :=
  match sources file with
  | .error _ => []
  | .ok source => a.kept p file source

theorem comments_readComments {a : Assessment} {p : Pattern} {source : String}
    (reads : a.reader.comments source = (p.captured source).map Span.text) (file : String) :
    (a.readComments file source).1 = (a.kept p file source).map Kept.comment := by
  simp only [readComments, reads, locate_eq_trail, kept, List.filterMap_map, List.map_filterMap]
  refine List.filterMap_congr fun ⟨f, s⟩ _ => ?_
  simp [Function.comp_def]

theorem comments_ingestSources {a : Assessment} {p : Pattern}
    (reads : ∀ source, a.reader.comments source = (p.captured source).map Span.text)
    (files : List String) (sources : Sources) :
    (a.ingestSources files sources).comments =
      a.comments ++ (files.flatMap (a.keptOf p sources)).map Kept.comment := by
  have each (file : String) : (a.itemOutcome (.source file sources)).comments =
      (a.keptOf p sources file).map Kept.comment := by
    rw [itemOutcome, keptOf]
    cases sources file with
    | error reason => rfl
    | ok source => exact comments_readComments (reads source) file
  have run := comments_ingestAll a [.sources files sources]
  simp only [outcome, Outcome.join, Ingestion.items, List.flatMap_singleton, List.flatMap_map,
    each] at run
  rw [List.map_flatMap]
  exact run

/-- The line of a kept comment is never 0 and never behind the captured text. It is the line of
that text unless the text also occurs on an earlier line that the finder has not passed. -/
theorem comments_ingestSources_lines {analyzer : Analyzer} {p : Pattern}
    (finds : analyzer.FindsComments p) {a : Assessment} {edition : Edition} {reference : String}
    (reads : a.reader = analyzer.reader edition reference) (files : List String)
    (sources : Sources) :
    (a.ingestSources files sources).comments =
        a.comments ++ (files.flatMap (a.keptOf p sources)).map Kept.comment ∧
      ∀ file ∈ files, ∀ source, sources file = .ok source → ∀ k ∈ a.keptOf p sources file,
        k.span ∈ p.captured source ∧ 0 < k.comment.line ∧
          k.comment.line ≤ lineAt source k.span.start ∧
          (k.comment.line = lineAt source k.span.start ↔ ¬ k.finder.Shadowed source k.span) := by
  have comments (source : String) := finds.comments_eq edition reference source
  refine ⟨comments_ingestSources (reads ▸ comments) files sources, ?_⟩
  intro file _ source read k hk
  rw [keptOf, read] at hk
  obtain ⟨⟨f, s⟩, hs, hk⟩ := List.mem_filterMap.mp hk
  obtain ⟨c, hc, rfl⟩ := Option.map_eq_some_iff.mp hk
  have strung := finds.opensWith.strung_captured source
  have ahead (s : Span) (first : s ∈ (p.captured source).head?) :
      ∃ passed, Leads (LineFinder.ofText source).cursor passed s.start := by
    obtain ⟨x, gap, leads⟩ := strung.before_head first
    exact ⟨x :: gap, LineFinder.cursor_ofText source ▸ leads⟩
  obtain ⟨line, g, answer⟩ := LineFinder.exists_answer_of_mem_trail
    (LineFinder.searches_ofText source) ahead strung hs
  have same : c.line = line := (line_of_readComment hc).trans answer.lineOf_eq
  rw [same]
  exact ⟨LineFinder.mem_of_mem_trail hs, answer.pos, answer.le, answer.exact_iff⟩

def pcLintOver (text : String) : Assessment where
  tool := "PC-Lint"
  edition := .c2012
  reference := text
  reader := PcLint.analyzer.reader .c2012 text
  tags := .standard
  catalog := .ofReference text

/-- An ordinary comment that holds the text of a later suppression comment. The first suppression
comment has its own line, the second one the line of the ordinary comment. -/
theorem shadowed_of_repeated_text :
    let source := "//lint GUIDELINE(Rule 1.1)\n/* see GUIDELINE(Rule 1.2) */\n" ++
      "//lint GUIDELINE(Rule 1.2)\n"
    ∃ k₁ k₂, (pcLintOver "").keptOf PcLint.commentPattern (fun _ => .ok source) "a.c" = [k₁, k₂] ∧
      ¬ k₁.finder.Shadowed source k₁.span ∧ k₂.finder.Shadowed source k₂.span := by
  intro source
  let sources : Sources := fun _ => .ok source
  have reads : (pcLintOver "").reader = PcLint.analyzer.reader .c2012 "" := rfl
  obtain ⟨-, lines⟩ := comments_ingestSources_lines .pcLint reads ["a.c"] sources
  have each := lines "a.c" List.mem_cons_self source rfl
  have right : ((pcLintOver "").keptOf PcLint.commentPattern sources "a.c").map
      (fun k => decide (k.comment.line = lineAt source k.span.start)) = [true, false] := by
    decide +kernel
  obtain ⟨k₁, rest, list, first, right⟩ := List.map_eq_cons_iff.mp right
  obtain ⟨k₂, rest, rfl, second, right⟩ := List.map_eq_cons_iff.mp right
  obtain rfl := List.map_eq_nil_iff.mp right
  obtain ⟨-, -, -, exact₁⟩ := each k₁ (list ▸ List.mem_cons_self)
  obtain ⟨-, -, -, exact₂⟩ := each k₂ (list ▸ List.mem_cons_of_mem k₁ List.mem_cons_self)
  refine ⟨k₁, k₂, list, exact₁.mp (of_decide_eq_true first), ?_⟩
  exact Classical.not_not.mp fun free => of_decide_eq_false second (exact₂.mpr free)

theorem not_forall_line_eq :
    ¬ ∀ (analyzer : Analyzer) (p : Pattern), analyzer.FindsComments p →
      ∀ (a : Assessment) (edition : Edition) (reference : String),
        a.reader = analyzer.reader edition reference → ∀ (file source : String),
          ∀ k ∈ a.kept p file source, k.comment.line = lineAt source k.span.start := by
  intro lines
  have all := lines _ _ .pcLint (pcLintOver "/*** Rule 1.1 (adv) ***/") .c2012 _ rfl "a.c"
    "/* see GUIDELINE(Rule 1.1) */\n//lint GUIDELINE(Rule 1.1)\n"
  exact absurd all (by decide +kernel)

end Assessment

end GuidelineCompliance
