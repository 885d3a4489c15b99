import GuidelineCompliance.Proofs.CommentLines
import GuidelineCompliance.Proofs.Groups
import GuidelineCompliance.Proofs.WordRuns
import Mathlib.Data.List.TakeWhile

/-! The lines that a line comment takes up. A line comment has an opening, which is its marker with
the blanks that the pattern skips, and goes on to the end of the line on which the opening ends. A
line feed is a blank, so the opening can end on a later line than it begins. -/

namespace GuidelineCompliance

namespace Pattern

variable {α : Type} {k : Follow α} {c : Cursor} {caps : Captures}

theorem exists_freeLineEnd (h : c.rest.head? ≠ some '\n') :
    ∃ cs d, Leads c cs d ∧ (∀ x ∈ cs, (CharSet.noneOf ['\n']).mem x = true) ∧
      Anchor.freeLineEnd.holds d.before d.rest.head? = true := by
  obtain ⟨cs, d, leads, taken, stop⟩ := exists_longest (.noneOf ['\n']) c
  cases hd : d.rest.head? with
  | none => exact ⟨cs, d, leads, taken, by simp [Anchor.holds, hd]⟩
  | some y =>
    obtain rfl : y = '\n' := by simpa using stop y hd
    obtain rfl | ⟨line, x, rfl⟩ := List.eq_nil_or_concat cs
    · exact absurd (leads.unique (.refl c) ▸ hd) h
    · rw [List.concat_eq_append] at *
      obtain ⟨e, first, last⟩ := leads.exists_between
      -- The anchor does not hold between a carriage return and the line feed behind it.
      by_cases returns : x = '\r'
      · refine ⟨line, e, first, fun z hz => taken z (List.mem_append_left _ hz), ?_⟩
        simp [Anchor.holds, last.rest, returns]
      · refine ⟨_, d, leads, taken, ?_⟩
        simp [Anchor.holds, hd, last.before, returns]

theorem isSome_run_capture_to_line_end {group : Nat} (h : c.rest.head? ≠ some '\n')
    (done : ∀ e caps, (k e caps).isSome = true) :
    (run (all [.capture group (many (.noneOf ['\n'])), .anchor .freeLineEnd]) k c caps).isSome =
      true := by
  obtain ⟨cs, d, leads, taken, holds⟩ := exists_freeLineEnd h
  rw [run_all_cons, run_capture]
  refine isSome_run_many leads taken ?_
  obtain ⟨r, hr⟩ := Option.isSome_iff_exists.mp (done d ((group, ⟨c, d⟩) :: caps))
  exact Option.isSome_iff_exists.mpr ⟨r, run_anchor_eq_some.mpr ⟨holds, hr⟩⟩

theorem matchAt_of_alt {p q : Pattern} {m : Match} {group : Nat} {s : Span}
    (h : (Pattern.alt p q).matchAt c = some m) (taken : m.span? group = some s)
    (absent : ∀ part ∈ q.parts, part.1 ≠ group) : p.matchAt c = some m := by
  rw [matchAt, run_alt] at h
  obtain first | ⟨-, second⟩ := Option.or_eq_some_iff.mp h
  · exact first
  · obtain old | ⟨part, k, k', mem, -⟩ :=
      (takes_of_matchAt second).mem_parts (Match.mem_captures_of_span? taken)
    · cases old
    · exact absurd rfl (absent _ mem)

/-- A match has an opening and goes on without a line feed. Its group starts behind the marker, and
ends with the match. -/
structure LineComment (m : Match) (s : Span) (opening body : List Char) : Prop where
  stop_eq : m.span.stop = s.stop
  through : Leads m.span.start (opening ++ body) s.stop
  marker : ∃ marker, marker <+: opening ∧ Leads m.span.start marker s.start
  oneLine : '\n' ∉ body

end Pattern

namespace Analyzer

open Pattern

/-- What stands at the opening of a line comment, and what may follow it. -/
inductive OpensLine : Analyzer → List Char → List Char → Prop where
  | pcLint {blanks rest} (blank : ∀ x ∈ blanks, Text.isBlank x = true)
    (longest : ∀ x ∈ rest.head?, Text.isBlank x = false) :
    OpensLine PcLint.analyzer ("//lint".toList ++ blanks) rest
  | cppcheck {blanks gap rest} (blank : ∀ x ∈ blanks, Text.isBlank x = true)
    (gapBlank : Text.isBlank gap = true) :
    OpensLine Cppcheck.analyzer ("//".toList ++ (blanks ++ ("cppcheck-suppress".toList ++ [gap])))
      rest

end Analyzer

open Pattern

theorem PcLint.exists_lineComment {c : Cursor} {m : Match} {s : Span}
    (h : PcLint.commentPattern.matchAt c = some m) (taken : m.span? 1 = some s) :
    ∃ opening body, LineComment m s opening body ∧
      Analyzer.OpensLine PcLint.analyzer opening (body ++ s.stop.rest) := by
  have line := matchAt_of_alt h taken (by decide)
  rw [matchAt, run_all_cons, run_lit_eq_some] at line
  obtain ⟨a, marker, line⟩ := line
  obtain ⟨blanks, b, skipped, blank, longest⟩ := exists_longest .blank a
  have here : b.rest.head? ≠ some '\n' := fun feed => absurd (longest '\n' feed) (by decide)
  rw [run_all_cons] at line
  have done := eq_some_of_run_many skipped blank longest
    (isSome_run_capture_to_line_end here fun _ _ => rfl) line
  rw [run_all_cons, run_capture] at done
  obtain ⟨body, e, leads, free, done⟩ := exists_leads_of_run_many done
  obtain ⟨-, done⟩ := run_anchor_eq_some.mp done
  cases done
  cases taken
  have opening := marker.trans skipped
  refine ⟨_, body, ⟨rfl, opening.trans leads, ⟨_, List.prefix_refl _, opening⟩,
    forall_mem_noneOf.mp free⟩, .pcLint blank ?_⟩
  rw [← leads.rest]
  exact longest

theorem Cppcheck.exists_lineComment {c : Cursor} {m : Match} {s : Span}
    (h : Cppcheck.commentPattern.matchAt c = some m) (taken : m.span? 1 = some s) :
    ∃ opening body, LineComment m s opening body ∧
      Analyzer.OpensLine Cppcheck.analyzer opening (body ++ s.stop.rest) := by
  have line := matchAt_of_alt h taken (by decide)
  rw [matchAt, run_all_cons, run_lit_eq_some] at line
  obtain ⟨a, marker, line⟩ := line
  rw [run_all_cons, run_capture, run_all_cons, suppressWord, run_all_cons] at line
  obtain ⟨blanks, b, skipped, blank, line⟩ := exists_leads_of_run_many line
  rw [run_all_cons, run_lit_eq_some] at line
  obtain ⟨d, word, line⟩ := line
  obtain ⟨gap, e, gapBlank, one, line⟩ := run_set_eq_some.mp line
  obtain ⟨body, f, leads, free, done⟩ := exists_leads_of_run_many line
  obtain ⟨-, done⟩ := run_anchor_eq_some.mp done
  cases done
  cases taken
  exact ⟨_, body, ⟨rfl, (marker.trans (skipped.trans (word.trans one))).trans leads,
    ⟨_, List.prefix_append _ _, marker⟩, forall_mem_noneOf.mp free⟩, .cppcheck blank gapBlank⟩

structure OnOneLine (source : String) (m : Match) (s : Span) : Prop where
  start_eq : lineAt source s.start = lineAt source m.span.start
  stop_eq : lineAt source s.stop = lineAt source m.span.start

/-- A match goes past the start of a comment on a later line. The next search begins behind the
match, so that comment is not found. -/
def Hides (p : Pattern) (source : String) (m : Match) : Prop :=
  ∃ passed c, Leads m.span.start passed c ∧ c.offset < m.span.stop.offset ∧
    lineAt source m.span.start < lineAt source c ∧ (p.matchAt c).isSome = true

section Lines

variable {source : String} {c d : Cursor} {before passed opening body : List Char} {p : Pattern}
  {m : Match} {s : Span}

theorem lineAt_stop_of_lineComment (h : Leads (.ofText source.toList) before m.span.start)
    (hm : LineComment m s opening body) :
    lineAt source s.stop = lineAt source m.span.start + opening.count '\n' := by
  rw [lineAt_add h hm.through, List.count_append, List.count_eq_zero.mpr hm.oneLine, Nat.add_zero]

theorem not_hides_of_lineComment (h : Leads (.ofText source.toList) before m.span.start)
    (hm : LineComment m s opening body) (free : '\n' ∉ opening) : ¬ Hides p source m := by
  rintro ⟨passed, c, reaches, early, later, -⟩
  rw [lineAt_add h reaches] at later
  -- A place before the end of the match lies behind a part of its text.
  obtain inside | beyond := Nat.le_total passed.length (opening ++ body).length
  · obtain ⟨gap, split, -⟩ := reaches.between hm.through inside
    have empty : '\n' ∉ passed := fun mem => by
      have mem : '\n' ∈ opening ++ body := split ▸ List.mem_append_left gap mem
      exact (List.mem_append.mp mem).elim free hm.oneLine
    rw [List.count_eq_zero.mpr empty] at later
    omega
  · obtain ⟨gap, -, past⟩ := hm.through.between reaches beyond
    rw [hm.stop_eq, past.offset] at early
    omega

theorem onOneLine_iff_of_lineComment (h : Leads (.ofText source.toList) before m.span.start)
    (hm : LineComment m s opening body) : OnOneLine source m s ↔ '\n' ∉ opening := by
  have stop := lineAt_stop_of_lineComment h hm
  constructor
  · intro line
    rw [line.stop_eq] at stop
    exact List.count_eq_zero.mp (by omega)
  · intro free
    obtain ⟨marker, ⟨blanks, rfl⟩, leads⟩ := hm.marker
    have marked : '\n' ∉ marker := fun mem => free (List.mem_append_left blanks mem)
    refine ⟨?_, ?_⟩
    · rw [lineAt_add h leads, List.count_eq_zero.mpr marked, Nat.add_zero]
    · rw [stop, List.count_eq_zero.mpr free, Nat.add_zero]

end Lines

namespace Analyzer.FindsComments

variable {analyzer : Analyzer} {p : Pattern} {m : Match} {s : Span}

theorem exists_lineComment (finds : analyzer.FindsComments p) {c : Cursor}
    (h : p.matchAt c = some m) (taken : m.span? 1 = some s) :
    ∃ opening body, LineComment m s opening body ∧
      analyzer.OpensLine opening (body ++ s.stop.rest) := by
  cases finds with
  | pcLint => exact PcLint.exists_lineComment h taken
  | cppcheck => exact Cppcheck.exists_lineComment h taken

theorem text_mem_comments (finds : analyzer.FindsComments p) (edition : Edition)
    (reference : String) {source : String} (found : m ∈ p.findAll source)
    (taken : m.span? 1 = some s) :
    s.text ∈ (analyzer.reader edition reference).comments source := by
  rw [finds.comments_eq]
  refine List.mem_map_of_mem (List.mem_filterMap.mpr ⟨m, found, ?_⟩)
  rw [Match.comment?, taken, Option.some_or]

/-- A line comment ends on the line on which its opening ends. It stays on the line of its marker,
and hides no comment of a later line, exactly when its opening holds no line feed. -/
theorem onOneLine_and_not_hides_iff (finds : analyzer.FindsComments p) (edition : Edition)
    (reference : String) {source : String} (found : m ∈ p.findAll source)
    (taken : m.span? 1 = some s) :
    s.text ∈ (analyzer.reader edition reference).comments source ∧
      ∃ opening rest, m.span.start.rest = opening ++ rest ∧ analyzer.OpensLine opening rest ∧
        lineAt source s.stop = lineAt source m.span.start + opening.count '\n' ∧
        (OnOneLine source m s ∧ ¬ Hides p source m ↔ '\n' ∉ opening) := by
  obtain ⟨before, reaches, here⟩ := exists_leads_of_mem_findAllFrom found
  obtain ⟨opening, body, comment, opens⟩ := finds.exists_lineComment here taken
  have line := onOneLine_iff_of_lineComment reaches comment
  refine ⟨finds.text_mem_comments edition reference found taken, opening, body ++ s.stop.rest,
    ?_, opens, lineAt_stop_of_lineComment reaches comment, ?_⟩
  · rw [comment.through.rest, List.append_assoc]
  · exact ⟨fun ⟨one, _⟩ => line.mp one,
      fun free => ⟨line.mpr free, not_hides_of_lineComment reaches comment free⟩⟩

theorem onOneLine_above_bare_marker :
    let source := "//lint -e961\n//lint\n//lint -e506\n"
    let p := PcLint.commentPattern
    ∃ m₁ m₂ s₁ s₂, p.findAll source = [m₁, m₂] ∧ m₁.span? 1 = some s₁ ∧ m₂.span? 1 = some s₂ ∧
      (OnOneLine source m₁ s₁ ∧ ¬ Hides p source m₁) ∧
      ¬ (OnOneLine source m₂ s₂ ∧ ¬ Hides p source m₂) := by
  intro source p
  have lines : (p.findAll source).map (fun m => (m.span? 1).map fun s =>
      (lineAt source m.span.start, lineAt source s.stop)) = [some (1, 1), some (2, 3)] := by
    decide +kernel
  obtain ⟨m₁, rest, all, first, lines⟩ := List.map_eq_cons_iff.mp lines
  obtain ⟨m₂, rest, rfl, second, lines⟩ := List.map_eq_cons_iff.mp lines
  obtain rfl := List.map_eq_nil_iff.mp lines
  obtain ⟨s₁, taken₁, first⟩ := Option.map_eq_some_iff.mp first
  obtain ⟨s₂, taken₂, second⟩ := Option.map_eq_some_iff.mp second
  obtain ⟨start₁, stop₁⟩ := Prod.mk.inj first
  obtain ⟨start₂, stop₂⟩ := Prod.mk.inj second
  obtain ⟨-, opening₁, -, -, -, end₁, iff₁⟩ := FindsComments.pcLint.onOneLine_and_not_hides_iff
    .c2012 "" (all ▸ List.mem_cons_self) taken₁
  obtain ⟨-, opening₂, -, -, -, end₂, iff₂⟩ := FindsComments.pcLint.onOneLine_and_not_hides_iff
    .c2012 "" (all ▸ List.mem_cons_of_mem m₁ List.mem_cons_self) taken₂
  rw [start₁, stop₁] at end₁
  rw [start₂, stop₂] at end₂
  refine ⟨m₁, m₂, s₁, s₂, all, taken₁, taken₂, iff₁.mpr ?_, fun stays => ?_⟩
  · exact List.count_eq_zero.mp (by omega)
  · have empty := List.count_eq_zero.mpr (iff₂.mp stays)
    omega

theorem not_forall_onOneLine :
    ¬ ∀ (analyzer : Analyzer) (p : Pattern), analyzer.FindsComments p → ∀ (source : String),
      ∀ m ∈ p.findAll source, ∀ s, m.span? 1 = some s →
        OnOneLine source m s ∧ ¬ Hides p source m := by
  intro all
  let source := "//lint\n//lint -e961"
  have ends : ((PcLint.commentPattern.findAll source).map fun m =>
      (m.span? 1).map fun s => (lineAt source m.span.start, lineAt source s.stop)) =
        [some (1, 2)] := by
    decide +kernel
  obtain ⟨m, rest, found, line, -⟩ := List.map_eq_cons_iff.mp ends
  obtain ⟨s, taken, line⟩ := Option.map_eq_some_iff.mp line
  obtain ⟨start, stop⟩ := Prod.mk.inj line
  have stays := (all _ _ .pcLint source m (found ▸ List.mem_cons_self) s taken).1.stop_eq
  rw [start, stop] at stays
  cases stays

end Analyzer.FindsComments

end GuidelineCompliance
