import GuidelineCompliance.Proofs.LineQueries

/-! Comments in the order of their source. Where the comments of a source are stretches of it that
do not overlap and come one behind the other, each of them is found: a search may end at an earlier
copy of its text, but never passes the end of the comment itself. -/

namespace GuidelineCompliance

open Pattern (Cursor Leads Span)

structure StretchOf (source : String) (s : Span) : Prop where
  stands : StandsIn source s.start
  taken : ∃ inner, inner ≠ [] ∧ Leads s.start inner s.stop

/-- Stretches of a source text of which none overlaps another one, in the order of the text. -/
structure InOrder (source : String) (spans : List Span) : Prop where
  stretch : ∀ s ∈ spans, StretchOf source s
  apart : spans.Pairwise fun s t => s.stop.offset ≤ t.start.offset

theorem InOrder.tail {source : String} {s : Span} {spans : List Span}
    (h : InOrder source (s :: spans)) : InOrder source spans where
  stretch := fun t ht => h.stretch t (List.mem_cons_of_mem s ht)
  apart := (List.pairwise_cons.mp h.apart).2

theorem GoesOn.eq_of_lt {c d e : Cursor} (h : GoesOn c d e) (nonempty : c.offset < d.offset) :
    e = d := by
  cases h with
  | behind => rfl
  | past => exact absurd nonempty (Nat.lt_irrefl _)
  | atEnd => exact absurd nonempty (Nat.lt_irrefl _)

namespace LineFinder

variable {source : String} {f : LineFinder}

theorem ask_stretch (searches : f.Searches source) {s : Span} (stretch : StretchOf source s)
    (ahead : f.position ≤ s.start.offset) :
    (f.ask (.text s.text)).1.isSome = true ∧
      (f.ask (.text s.text)).2.position ≤ s.stop.offset := by
  obtain ⟨inner, nonempty, through⟩ := stretch.taken
  obtain ⟨front, here⟩ := searches.standsIn
  obtain ⟨front', there⟩ := stretch.stands
  obtain ⟨gap, before⟩ := here.of_offset_le there (searches.position_eq ▸ ahead)
  have text : s.text.toList = inner := by rw [Span.text, String.toList_ofList, through.chars]
  have hits : (Query.text s.text).Hits s.start s.stop := .text (text ▸ through)
  obtain ⟨served, searches'⟩ := serves_ask searches (.text s.text)
  have found := served.isSome_iff.mpr ⟨gap, s.start, s.stop, before, hits⟩
  refine ⟨found, ?_⟩
  obtain ⟨line, answer⟩ := Option.isSome_iff_exists.mp found
  rw [answer] at served
  obtain ⟨c, d, first⟩ := served.exists_first
  obtain ⟨stands⟩ := first.hits
  rw [text] at stands
  have position : (f.ask (.text s.text)).2.position = d.offset := by
    rw [searches'.position_eq, (served.of_first first).2.eq_of_lt (stands.offset_lt nonempty)]
  -- The copy that is found has the length of the stretch and starts no later.
  rw [position, stands.offset, through.offset]
  exact Nat.add_le_add_right (first.first before hits) _

theorem isSome_of_mem_askAll {spans : List Span} (searches : f.Searches source)
    (order : InOrder source spans) (ahead : ∀ s ∈ spans, f.position ≤ s.start.offset) :
    ∀ answer ∈ (f.askAll (spans.map fun s => .text s.text)).1, answer.isSome = true := by
  induction spans generalizing f with
  | nil => exact List.forall_mem_nil _
  | cons s spans ih =>
    obtain ⟨found, behind⟩ := ask_stretch searches (order.stretch s List.mem_cons_self)
      (ahead s List.mem_cons_self)
    have apart := (List.pairwise_cons.mp order.apart).1
    exact List.forall_mem_cons.mpr ⟨found, ih (serves_ask searches _).2 order.tail
      fun t ht => behind.trans (apart t ht)⟩

end LineFinder

namespace Assessment

theorem map_fst_locate {f : LineFinder} {texts : List String}
    (found : ∀ answer ∈ (f.askAll (texts.map .text)).1, answer.isSome = true) :
    (locate f texts).map Prod.fst = f.lines (texts.map .text) := by
  induction texts generalizing f with
  | nil => rfl
  | cons t texts ih =>
    obtain ⟨first, rest⟩ := List.forall_mem_cons.mp found
    rw [List.map_cons, LineFinder.lines_cons, locate]
    rw [LineFinder.ask, LineFinder.find] at first rest ⊢
    cases answer : f.find? t with
    | none =>
      rw [answer] at first
      cases first
    | some r =>
      rw [answer] at rest
      exact congrArg (r.1 :: ·) (ih rest)

theorem map_line_readComments_sublist (a : Assessment) (file source : String) :
    ((a.readComments file source).1.map Comment.line).Sublist
      ((locate (.ofText source) (a.reader.comments source)).map Prod.fst) := by
  rw [readComments]
  induction locate (.ofText source) (a.reader.comments source) with
  | nil => exact List.Sublist.refl []
  | cons located rest ih =>
    rw [List.map_cons, List.map_cons, List.filterMap_cons]
    cases kept : (a.readComment file located.1 located.2).1 with
    | none => exact ih.cons _
    | some c =>
      rw [← line_of_readComment kept]
      exact ih.cons_cons _

theorem lines_of_inOrder {source : String} {spans : List Span} (order : InOrder source spans) :
    (∀ answer ∈ ((LineFinder.ofText source).askAll (spans.map fun s => .text s.text)).1,
        answer.isSome = true) ∧
      ∀ (a : Assessment) (file : String), a.reader.comments source = spans.map Span.text →
        (∀ c ∈ (a.readComments file source).1, c.line ≠ 0) ∧
          ((a.readComments file source).1.map Comment.line).Pairwise (· ≤ ·) := by
  have start := LineFinder.searches_ofText source
  have found := LineFinder.isSome_of_mem_askAll start order fun s _ => Nat.zero_le _
  refine ⟨found, fun a file reads => ?_⟩
  have recorded := map_line_readComments_sublist a file source
  have queries : spans.map (fun s => Query.text s.text) = (spans.map Span.text).map .text :=
    List.map_map.symm
  rw [reads, map_fst_locate (queries ▸ found)] at recorded
  refine ⟨fun c hc => ?_, (LineFinder.pairwise_lines start _).sublist recorded⟩
  have bounds := LineFinder.mem_lines_bounds start (recorded.subset (List.mem_map_of_mem hc))
  exact Nat.ne_of_gt (Nat.lt_of_lt_of_le (Nat.succ_pos _) bounds.1)

/-- The second `ab` of a text, and what stands directly behind it. -/
def laterCopy : List Span :=
  [⟨⟨3, some '\n', ['a', 'b', '\n', 'b']⟩, ⟨5, some 'b', ['\n', 'b']⟩⟩,
    ⟨⟨5, some 'b', ['\n', 'b']⟩, ⟨7, some 'b', []⟩⟩]

theorem inOrder_laterCopy : InOrder "ab\nab\nb" laterCopy where
  stretch := by
    have first : StretchOf "ab\nab\nb"
        ⟨⟨3, some '\n', ['a', 'b', '\n', 'b']⟩, ⟨5, some 'b', ['\n', 'b']⟩⟩ :=
      ⟨⟨['a', 'b', '\n'], rfl, rfl, rfl⟩, ['a', 'b'], by decide, rfl, rfl, rfl⟩
    have second : StretchOf "ab\nab\nb" ⟨⟨5, some 'b', ['\n', 'b']⟩, ⟨7, some 'b', []⟩⟩ :=
      ⟨⟨['a', 'b', '\n', 'a', 'b'], rfl, rfl, rfl⟩, ['\n', 'b'], by decide, rfl, rfl, rfl⟩
    exact List.forall_mem_cons.mpr ⟨first, List.forall_mem_singleton.mpr second⟩
  apart := by decide

def commentedBy (spans : List Span) : Assessment :=
  { pcLintOver "" with
    reader := ⟨fun _ => [], fun _ => spans.map Span.text, fun _ => some ["Rule 1.1"]⟩ }

/-- The search for the first of two comments ends at a copy before it. Both have a line. -/
theorem lines_of_laterCopy :
    InOrder "ab\nab\nb" laterCopy ∧
      ((LineFinder.ofText "ab\nab\nb").askAll (laterCopy.map fun s => .text s.text)).1 =
        [some 1, some 2] ∧
      (commentedBy laterCopy).reader.comments "ab\nab\nb" = laterCopy.map Span.text ∧
      ((commentedBy laterCopy).readComments "a.c" "ab\nab\nb").1.map Comment.line = [1, 2] ∧
      (∀ c ∈ ((commentedBy laterCopy).readComments "a.c" "ab\nab\nb").1, c.line ≠ 0) ∧
      (((commentedBy laterCopy).readComments "a.c" "ab\nab\nb").1.map Comment.line).Pairwise
        (· ≤ ·) := by
  have lines := (lines_of_inOrder inOrder_laterCopy).2 (commentedBy laterCopy) "a.c" rfl
  exact ⟨inOrder_laterCopy, by decide, rfl, by decide +kernel, lines.1, lines.2⟩

end Assessment

end GuidelineCompliance
