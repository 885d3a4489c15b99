import GuidelineCompliance.LineFinder
import GuidelineCompliance.Proofs.Search

/-! How a finder gets from offsets to lines. The line ends are in order, so that the search by
halves comes to the number of those before an offset, which is the number of line feeds there. The
end of the text is never one of them. Every slice starts between two characters of the text. -/

namespace GuidelineCompliance

open Pattern (Cursor Leads octets)

def lineAt (source : String) (c : Cursor) : Nat :=
  (Cursor.takeOctets c.offset source.toList).count '\n' + 1

theorem lineAt_of_leads {source : String} {c : Cursor} {passed : List Char}
    (h : Leads (.ofText source.toList) passed c) : lineAt source c = passed.count '\n' + 1 := by
  have offset : c.offset = octets passed := h.offset.trans (Nat.zero_add _)
  have rest : source.toList = passed ++ c.rest := h.rest
  rw [lineAt, offset, rest, Pattern.takeOctets_append]

theorem lineAt_add {source : String} {c d : Cursor} {before passed : List Char}
    (h : Leads (.ofText source.toList) before c) (hd : Leads c passed d) :
    lineAt source d = lineAt source c + passed.count '\n' := by
  rw [lineAt_of_leads (h.trans hd), lineAt_of_leads h, List.count_append]
  omega

namespace LineFinder

section PartitionPoint

variable {α : Type} {p : α → Bool} {xs : Array α}

/-- All elements that pass a test stand in front of those that fail it. -/
def Parted (p : α → Bool) (xs : List α) : Prop := xs.Pairwise fun x y => p y = true → p x = true

theorem Parted.holds_iff {xs : List α} (parted : Parted p xs) {i : Nat} (h : i < xs.length) :
    p xs[i] = true ↔ i < xs.countP p := by
  induction xs generalizing i with
  | nil => cases h
  | cons x xs ih =>
    obtain ⟨first, later⟩ := List.pairwise_cons.mp parted
    have failing (fails : ¬ p x = true) : xs.countP p = 0 :=
      List.countP_eq_zero.mpr fun y hy holds => fails (first y hy holds)
    cases i with
    | zero =>
      rw [List.getElem_cons_zero, List.countP_cons]
      by_cases holds : p x = true
      · simp [holds]
      · simp [holds, failing holds]
    | succ i =>
      rw [List.getElem_cons_succ, ih later, List.countP_cons]
      by_cases holds : p x = true
      · simp [holds]
      · simp [holds, failing holds]

/-- The point stays between the two indices, and each round brings them closer. -/
theorem bisect_eq (parted : Parted p xs.toList) {n low high : Nat}
    (above : low ≤ xs.toList.countP p) (below : xs.toList.countP p ≤ high) (inside : high ≤ xs.size)
    (rounds : high - low ≤ n) : bisect p xs n low high = xs.toList.countP p := by
  induction n generalizing low high with
  | zero =>
    rw [bisect]
    omega
  | succ n ih =>
    rw [bisect]
    split
    · rename_i apart
      have there : low + (high - low) / 2 < xs.size := by omega
      have holds := parted.holds_iff (i := low + (high - low) / 2) (by simpa using there)
      rw [Array.getElem_toList] at holds
      simp only [Array.getElem?_eq_getElem there, Option.any_some]
      split
      · rename_i passes
        have := holds.mp passes
        exact ih (by omega) below inside (by omega)
      · rename_i fails
        have := mt holds.mpr fails
        exact ih above (by omega) (by omega) (by omega)
    · omega

theorem partitionPoint_eq (parted : Parted p xs.toList) :
    partitionPoint p xs = xs.toList.countP p :=
  bisect_eq parted (Nat.zero_le _) List.countP_le_length (Nat.le_refl _) (Nat.le_refl _)

end PartitionPoint

theorem bounds_of_mem_lineFeeds {n offset : Nat} {cs : List Char} (h : n ∈ lineFeeds offset cs) :
    offset ≤ n ∧ n < offset + octets cs := by
  induction cs generalizing offset with
  | nil => cases h
  | cons c cs ih =>
    have size := c.utf8Size_pos
    have later (h : n ∈ lineFeeds (offset + c.utf8Size) cs) :
        offset ≤ n ∧ n < offset + octets (c :: cs) := by
      have bounds := ih h
      rw [octets]
      omega
    rw [lineFeeds] at h
    split at h
    · obtain rfl | behind := List.mem_cons.mp h
      · rw [octets]
        omega
      · exact later behind
    · exact later h

theorem pairwise_lineFeeds (offset : Nat) (cs : List Char) :
    (lineFeeds offset cs).Pairwise (· < ·) := by
  induction cs generalizing offset with
  | nil => exact .nil
  | cons c cs ih =>
    rw [lineFeeds]
    split
    · refine .cons (fun n hn => ?_) (ih _)
      have bounds := bounds_of_mem_lineFeeds hn
      have size := c.utf8Size_pos
      omega
    · exact ih _

theorem countP_lineFeeds (offset : Nat) (passed rest : List Char) :
    (lineFeeds offset (passed ++ rest)).countP (fun n => n < offset + octets passed) =
      passed.count '\n' := by
  induction passed generalizing offset with
  | nil =>
    refine List.countP_eq_zero.mpr fun n hn => ?_
    have bounds := bounds_of_mem_lineFeeds hn
    exact fun before => Nat.not_lt.mpr bounds.1 (of_decide_eq_true before)
  | cons c passed ih =>
    have size := c.utf8Size_pos
    have later := ih (offset + c.utf8Size)
    rw [Nat.add_assoc] at later
    rw [List.cons_append, lineFeeds, octets]
    split
    · rename_i feed
      subst feed
      rw [List.countP_cons_of_pos (by simpa using Nat.lt_of_lt_of_le size (Nat.le_add_right _ _)),
        later, List.count_cons_self]
    · rename_i other
      rw [later, List.count_cons_of_ne other]

theorem utf8ByteSize_eq (source : String) : source.utf8ByteSize = octets source.toList := by
  rw [← Pattern.utf8ByteSize_ofList, String.ofList_toList]

theorem toList_lineEnds (source : String) : (ofText source).lineEnds.toList =
    lineFeeds 0 source.toList ++ [octets source.toList] := by
  rw [ofText, utf8ByteSize_eq]

theorem parted_lineEnds (source : String) (offset : Nat) :
    Parted (fun n => n < offset) (ofText source).lineEnds.toList := by
  rw [toList_lineEnds, Parted, List.pairwise_append]
  refine ⟨(pairwise_lineFeeds _ _).imp fun less => ?_, List.pairwise_singleton _ _,
    fun n hn last hlast => ?_⟩
  · simp only [decide_eq_true_eq]
    omega
  · obtain rfl := List.mem_singleton.mp hlast
    have bounds := bounds_of_mem_lineFeeds hn
    simp only [decide_eq_true_eq]
    omega

/-- A finder for a text that stands at a place in it. -/
def Searches (source : String) (f : LineFinder) : Prop :=
  ∃ passed c, Leads (.ofText source.toList) passed c ∧
    f = { ofText source with position := c.offset }

def cursor (f : LineFinder) : Cursor :=
  ((Cursor.ofText f.text.toList).skip? f.position).getD (.ofText [])

variable {source : String} {f : LineFinder} {c d : Cursor} {passed : List Char}

theorem searches_ofText (source : String) : (ofText source).Searches source :=
  ⟨[], _, .refl _, rfl⟩

theorem skip?_ofText (h : Leads (.ofText source.toList) passed c) :
    (Cursor.ofText source.toList).skip? c.offset = some c := by
  have offset : c.offset = octets passed := h.offset.trans (Nat.zero_add _)
  rw [offset]
  exact h.skip?_eq

theorem cursor_move (h : Leads (.ofText source.toList) passed c) :
    cursor { ofText source with position := c.offset } = c :=
  (congrArg (Option.getD · _) (skip?_ofText h)).trans rfl

theorem cursor_ofText (source : String) : (ofText source).cursor = .ofText source.toList :=
  cursor_move (.refl _)

namespace Searches

variable (searches : f.Searches source)
include searches

theorem exists_leads : ∃ passed, Leads (.ofText source.toList) passed f.cursor := by
  obtain ⟨passed, c, leads, rfl⟩ := searches
  exact ⟨passed, (cursor_move leads).symm ▸ leads⟩

theorem position_eq : f.position = f.cursor.offset := by
  obtain ⟨passed, c, leads, rfl⟩ := searches
  rw [cursor_move leads]

theorem text_eq : f.text = source := by
  obtain ⟨passed, c, leads, rfl⟩ := searches
  rfl

theorem slice_eq (h : Leads (.ofText source.toList) passed c) : f.slice c.offset = .ok c := by
  rw [slice, searches.text_eq, skip?_ofText h]

theorem slice_position : f.slice f.position = .ok f.cursor := by
  obtain ⟨passed, leads⟩ := searches.exists_leads
  rw [searches.position_eq, searches.slice_eq leads]

theorem line_eq (h : Leads (.ofText source.toList) passed c) :
    f.line c.offset = lineAt source c := by
  obtain ⟨passed', c', leads, rfl⟩ := searches
  have offset : c.offset = 0 + octets passed := h.offset
  have whole : source.toList = passed ++ c.rest := h.rest
  have last : octets passed ≤ octets source.toList := by
    rw [whole, Pattern.octets_append]
    exact Nat.le_add_right _ _
  have feeds := countP_lineFeeds 0 passed c.rest
  rw [← whole, ← offset] at feeds
  have ends : ¬ decide (octets source.toList < c.offset) = true := by
    simp only [decide_eq_true_eq]
    omega
  rw [line, partitionPoint_eq (parted_lineEnds source c.offset), toList_lineEnds,
    List.countP_append, feeds, List.countP_singleton, if_neg ends, Nat.add_zero, lineAt_of_leads h]

theorem move (hd : Leads f.cursor passed d) :
    Searches source { f with position := d.offset } ∧
      cursor { f with position := d.offset } = d := by
  obtain ⟨passed', leads⟩ := searches.exists_leads
  obtain ⟨-, c, -, rfl⟩ := searches
  exact ⟨⟨_, d, leads.trans hd, rfl⟩, cursor_move (leads.trans hd)⟩

end Searches

/-- Where to go on after a match: behind it, or one character further if it is empty. -/
def resume (c d : Cursor) : Cursor := if c.offset < d.offset then d else d.next?.getD d

theorem advance_eq (searches : f.Searches source) (h : Leads (.ofText source.toList) passed c)
    {taken : List Char} (hd : Leads c taken d) :
    f.advance c.offset d.offset =
      .ok (lineAt source c, { f with position := (resume c d).offset }) := by
  have line := searches.line_eq h
  have slice := searches.slice_eq (h.trans hd)
  by_cases behind : c.offset < d.offset
  · simp [advance, resume, behind, line, bind, Except.bind, pure, Except.pure]
  · obtain ⟨n, before, rest⟩ := d
    cases rest with
    | nil =>
      have whole : source.toList = (passed ++ taken) ++ [] := (h.trans hd).rest
      have last : f.text.utf8ByteSize = n := by
        rw [searches.text_eq, utf8ByteSize_eq, whole, List.append_nil, ← Nat.zero_add (octets _)]
        exact (h.trans hd).offset.symm
      simp [advance, resume, behind, line, slice, last, Cursor.next?, bind, Except.bind, pure,
        Except.pure]
    | cons x rest =>
      simp [advance, resume, behind, line, slice, Cursor.next?, bind, Except.bind, pure,
        Except.pure]

theorem nextMatch_eq (searches : f.Searches source) (p : Pattern) :
    f.nextMatch p = .ok ((p.findFrom f.cursor).map fun m =>
      (lineAt source m.span.start,
        { f with position := (resume m.span.start m.span.stop).offset })) := by
  rw [nextMatch, searches.slice_position]
  simp only [bind, Except.bind]
  cases found : p.findFrom f.cursor with
  | none => rfl
  | some m =>
    obtain ⟨front, here⟩ := searches.exists_leads
    obtain ⟨passed, reaches, hit, -⟩ := Pattern.exists_leads_of_findFrom found
    obtain ⟨taken, through⟩ := (Pattern.takes_of_matchAt hit).exists_leads
    simp only [advance_eq searches (here.trans reaches) through]
    rfl

theorem firstOffset?_eq (t : String) (c : Cursor) : firstOffset? t.toList c.rest =
    ((Pattern.lit t).findFrom c).map fun m => m.span.start.offset - c.offset := by
  obtain ⟨n, before, rest⟩ := c
  induction rest generalizing n before with
  | nil =>
    rw [Pattern.findFrom_of_rest_eq_nil rfl, firstOffset?]
    cases found : (Pattern.lit t).matchAt ⟨n, before, []⟩ with
    | none =>
      have absent : t.toList ≠ [] := fun empty => by
        simpa [found] using
          Pattern.isSome_matchAt_lit (t := t) (c := ⟨n, before, []⟩) (by simp [empty])
      simp [absent]
    | some m =>
      obtain ⟨leads, start, -⟩ := Pattern.matchAt_lit_eq_some.mp found
      have nothing : t.toList = [] := (List.append_eq_nil_iff.mp leads.rest.symm).1
      simp [nothing, start]
  | cons x rest ih =>
    rw [Pattern.findFrom_step .step, firstOffset?]
    cases found : (Pattern.lit t).matchAt ⟨n, before, x :: rest⟩ with
    | some m =>
      obtain ⟨leads, start, -⟩ := Pattern.matchAt_lit_eq_some.mp found
      have here : t.toList <+: x :: rest := ⟨_, leads.rest.symm⟩
      rw [if_pos (List.isPrefixOf_iff_prefix.mpr here), Option.some_or, Option.map_some, start,
        Nat.sub_self]
    | none =>
      have absent : ¬ t.toList <+: x :: rest := fun here => by
        simpa [found] using Pattern.isSome_matchAt_lit (c := ⟨n, before, x :: rest⟩) here
      rw [if_neg (mt List.isPrefixOf_iff_prefix.mp absent), ih, Option.none_or, Option.map_map]
      cases later : (Pattern.lit t).findFrom ⟨n + x.utf8Size, some x, rest⟩ with
      | none => rfl
      | some m =>
        obtain ⟨passed, leads, -, -⟩ := Pattern.exists_leads_of_findFrom later
        have behind : n + x.utf8Size ≤ m.span.start.offset := leads.offset_le
        simp only [Option.map_some, Function.comp_apply, Option.some.injEq]
        omega

theorem nextText_eq (searches : f.Searches source) (t : String) :
    f.nextText t = f.nextMatch (.lit t) := by
  rw [nextText, nextMatch, searches.slice_position]
  simp only [bind, Except.bind, firstOffset?_eq]
  cases found : (Pattern.lit t).findFrom f.cursor with
  | none => rfl
  | some m =>
    obtain ⟨passed, reaches, hit, -⟩ := Pattern.exists_leads_of_findFrom found
    obtain ⟨through, -⟩ := Pattern.matchAt_lit_eq_some.mp hit
    have start : f.position + (m.span.start.offset - f.cursor.offset) = m.span.start.offset := by
      rw [searches.position_eq]
      exact Nat.add_sub_cancel' reaches.offset_le
    have stop : m.span.start.offset + t.utf8ByteSize = m.span.stop.offset := by
      rw [utf8ByteSize_eq, through.offset]
    simp only [Option.map_some, start, stop]

namespace Searches

variable (searches : f.Searches source)
include searches

theorem findMatch?_eq (p : Pattern) : f.findMatch? p =
    (p.findFrom f.cursor).map fun m => (lineAt source m.span.start,
      { f with position := (resume m.span.start m.span.stop).offset }) := by
  rw [findMatch?, nextMatch_eq searches]
  rfl

theorem find?_eq (t : String) : f.find? t =
    ((Pattern.lit t).findFrom f.cursor).map fun m => (lineAt source m.span.start,
      { f with position := (resume m.span.start m.span.stop).offset }) := by
  rw [find?, nextText_eq searches, nextMatch_eq searches]
  rfl

end Searches

end LineFinder

end GuidelineCompliance
