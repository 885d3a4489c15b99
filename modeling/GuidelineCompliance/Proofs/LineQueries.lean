import GuidelineCompliance.Proofs.CommentLines
import Mathlib.Data.List.ReduceOption

/-! Queries to a line finder. A finder is asked for a text, or for the next match of a pattern, as
often as one likes. It answers for the first place ahead of it where what it is asked for stands,
and goes on behind that. -/

namespace GuidelineCompliance

open Pattern (Cursor Leads octets)

inductive Query where
  | text (t : String)
  | pattern (p : Pattern)

namespace Query

def toPattern : Query → Pattern
  | text t => .lit t
  | pattern p => p

/-- What is asked for stands between two places: the text, or the match that starts at the first
of them. -/
inductive Hits : Query → Cursor → Cursor → Prop where
  | text {t c d} (stands : Leads c t.toList d) : Hits (text t) c d
  | pattern {p c m} (found : p.matchAt c = some m) : Hits (pattern p) c m.span.stop

variable {q : Query} {c d : Cursor}

theorem hits_iff : q.Hits c d ↔ ∃ m, q.toPattern.matchAt c = some m ∧ m.span.stop = d := by
  constructor
  · rintro (stands | found)
    · exact ⟨⟨⟨c, d⟩, []⟩, Pattern.matchAt_lit_eq_some.mpr ⟨stands, rfl, rfl⟩, rfl⟩
    · exact ⟨_, found, rfl⟩
  · rintro ⟨m, found, rfl⟩
    cases q with
    | text t => exact .text (Pattern.matchAt_lit_eq_some.mp found).1
    | pattern p => exact .pattern found

theorem Hits.exists_leads (h : q.Hits c d) : ∃ taken, Leads c taken d := by
  obtain ⟨m, found, rfl⟩ := hits_iff.mp h
  obtain ⟨taken, leads⟩ := (Pattern.takes_of_matchAt found).exists_leads
  exact ⟨taken, Pattern.start_of_matchAt found ▸ leads⟩

/-- The first of the places ahead where what is asked for stands, and where it ends. -/
structure First (q : Query) (here c d : Cursor) : Prop where
  ahead : ∃ passed, Leads here passed c
  hits : q.Hits c d
  first : ∀ {passed c' d'}, Leads here passed c' → q.Hits c' d' → c.offset ≤ c'.offset

theorem Hits.unique {d' : Cursor} (h : q.Hits c d) (h' : q.Hits c d') : d = d' := by
  obtain ⟨m, found, rfl⟩ := hits_iff.mp h
  obtain ⟨m', found', rfl⟩ := hits_iff.mp h'
  rw [found] at found'
  cases found'
  rfl

theorem First.unique {here c' d' : Cursor} (h : q.First here c d) (h' : q.First here c' d') :
    c = c' ∧ d = d' := by
  obtain ⟨passed, leads⟩ := h.ahead
  obtain ⟨passed', leads'⟩ := h'.ahead
  have same := Nat.le_antisymm (h.first leads' h'.hits) (h'.first leads h.hits)
  obtain ⟨gap, between⟩ := leads.of_offset_le leads' (Nat.le_of_eq same)
  have empty : gap = [] := by
    by_contra moved
    exact absurd same (Nat.ne_of_lt (between.offset_lt moved))
  subst empty
  obtain rfl := between.unique (.refl c)
  exact ⟨rfl, h.hits.unique h'.hits⟩

end Query

/-- Where to go on after a match: behind it, or, where it is empty, one character further or at
the end of the text. -/
inductive GoesOn : Cursor → Cursor → Cursor → Prop where
  | behind {c d} (nonempty : c.offset < d.offset) : GoesOn c d d
  | past {c x d} (one : Leads c [x] d) : GoesOn c c d
  | atEnd {c} (ended : c.rest = []) : GoesOn c c c

theorem GoesOn.exists_leads {c d e : Cursor} {taken : List Char} (h : GoesOn c d e)
    (hd : Leads c taken d) : ∃ passed, Leads c passed e := by
  cases h with
  | behind => exact ⟨taken, hd⟩
  | past one => exact ⟨_, one⟩
  | atEnd => exact ⟨[], .refl c⟩

theorem GoesOn.moves {c d e : Cursor} (h : GoesOn c d e) :
    c.offset < e.offset ∨ c.rest = [] ∧ e = c := by
  cases h with
  | behind moved => exact Or.inl moved
  | past one => exact Or.inl (one.offset_lt (List.cons_ne_nil _ _))
  | atEnd ended => exact Or.inr ⟨ended, rfl⟩

theorem Query.First.exists_leads {q : Query} {here c d e : Cursor} (first : q.First here c d)
    (goesOn : GoesOn c d e) : ∃ passed further, Leads here passed c ∧ Leads c further e := by
  obtain ⟨passed, leads⟩ := first.ahead
  obtain ⟨taken, through⟩ := first.hits.exists_leads
  obtain ⟨further, later⟩ := goesOn.exists_leads through
  exact ⟨passed, further, leads, later⟩

/-- The cursor stands in a text, between two of its characters or at one of its ends. -/
def StandsIn (source : String) (c : Cursor) : Prop := ∃ front, Leads (.ofText source.toList) front c

namespace StandsIn

variable {source : String} {c d : Cursor} {passed : List Char}

theorem move (h : StandsIn source c) (hd : Leads c passed d) : StandsIn source d := by
  obtain ⟨front, leads⟩ := h
  exact ⟨front ++ passed, leads.trans hd⟩

theorem isValid (h : StandsIn source c) : String.Pos.Raw.IsValid source ⟨c.offset⟩ := by
  obtain ⟨front, leads⟩ := h
  refine String.Pos.Raw.isValid_iff_exists_append.mpr
    ⟨String.ofList front, String.ofList c.rest, ?_, ?_⟩
  · rw [← String.ofList_append, ← leads.rest, Cursor.rest_ofText, String.ofList_toList]
  · have size : c.offset = (String.ofList front).utf8ByteSize := by
      rw [Pattern.utf8ByteSize_ofList, leads.offset]
      exact Nat.zero_add _
    exact congrArg String.Pos.Raw.mk size

theorem offset_le (h : StandsIn source c) : c.offset ≤ source.utf8ByteSize := h.isValid.le_rawEndPos

theorem lineAt_le (h : StandsIn source c) : lineAt source c ≤ source.toList.count '\n' + 1 := by
  obtain ⟨front, leads⟩ := h
  have split : source.toList = front ++ c.rest := leads.rest
  rw [lineAt_of_leads leads, split, List.count_append]
  omega

theorem lineAt_mono (h : StandsIn source c) (hd : Leads c passed d) :
    lineAt source c ≤ lineAt source d := by
  obtain ⟨front, leads⟩ := h
  rw [lineAt_add leads hd]
  omega

end StandsIn

namespace LineFinder

def query (f : LineFinder) : Query → Except OutOfRange (Option (Nat × LineFinder))
  | .text t => f.nextText t
  | .pattern p => f.nextMatch p

def find (f : LineFinder) : Query → Option (Nat × LineFinder)
  | .text t => f.find? t
  | .pattern p => f.findMatch? p

def ask (f : LineFinder) (q : Query) : Option Nat × LineFinder :=
  match f.find q with
  | some (line, g) => (some line, g)
  | none => (none, f)

def askAll (f : LineFinder) : List Query → List (Option Nat) × LineFinder
  | [] => ([], f)
  | q :: qs =>
    let first := f.ask q
    let rest := first.2.askAll qs
    (first.1 :: rest.1, rest.2)

theorem askAll_append (f : LineFinder) (qs rs : List Query) :
    (f.askAll (qs ++ rs)).2 = ((f.askAll qs).2.askAll rs).2 := by
  induction qs generalizing f with
  | nil => rfl
  | cons q qs ih => exact ih (f.ask q).2

/-- What a query does: it finds the first place ahead where what is asked for stands, or there is no
such place. -/
inductive Serves (source : String) (f : LineFinder) (q : Query) :
    Option Nat → LineFinder → Prop where
  | found {c d g} (first : q.First f.cursor c d) (goesOn : GoesOn c d g.cursor) :
    Serves source f q (some (lineAt source c)) g
  | missed (nowhere : ∀ passed c d, Leads f.cursor passed c → ¬ q.Hits c d) :
    Serves source f q none f

variable {source : String} {f g : LineFinder} {q : Query} {answer : Option Nat} {line : Nat}

theorem Searches.standsIn (h : f.Searches source) : StandsIn source f.cursor := h.exists_leads

theorem Searches.query_eq (h : f.Searches source) (q : Query) : f.query q = .ok (f.find q) := by
  cases q with
  | text t =>
    rw [query, find, h.find?_eq, nextText_eq h, nextMatch_eq h]
  | pattern p =>
    rw [query, find, h.findMatch?_eq, nextMatch_eq h]

theorem Searches.find_eq (h : f.Searches source) (q : Query) : f.find q =
    (q.toPattern.findFrom f.cursor).map fun m => (lineAt source m.span.start,
      { f with position := (resume m.span.start m.span.stop).offset }) := by
  cases q with
  | text t => exact h.find?_eq t
  | pattern p => exact h.findMatch?_eq p

theorem goesOn_resume {c d : Cursor} {taken : List Char} (h : Leads c taken d) :
    GoesOn c d (resume c d) := by
  rw [resume]
  split
  · rename_i moves
    exact .behind moves
  · rename_i stays
    have empty : taken = [] := by
      by_contra moved
      exact stays (h.offset_lt moved)
    subst empty
    rw [h.unique (.refl _)]
    cases next : c.next? with
    | some d =>
      obtain ⟨x, one⟩ := Leads.next next
      exact .past one
    | none =>
      refine .atEnd ?_
      rw [Cursor.next?] at next
      split at next
      · assumption
      · cases next

theorem first_of_findFrom {here : Cursor} {m : Pattern.Match}
    (found : q.toPattern.findFrom here = some m) : q.First here m.span.start m.span.stop := by
  obtain ⟨passed, reaches, hit, idle⟩ := Pattern.exists_leads_of_findFrom found
  refine ⟨⟨passed, reaches⟩, Query.hits_iff.mpr ⟨m, hit, rfl⟩, fun {passed' c' d'} h hits => ?_⟩
  by_contra early
  have short : passed'.length < passed.length := by
    by_contra long
    obtain ⟨gap, -, later⟩ := reaches.between h (Nat.le_of_not_lt long)
    exact early later.offset_le
  obtain ⟨m', found', -⟩ := Query.hits_iff.mp hits
  rw [idle passed' c' h short] at found'
  cases found'

theorem serves_ask (searches : f.Searches source) (q : Query) :
    Serves source f q (f.ask q).1 (f.ask q).2 ∧ (f.ask q).2.Searches source := by
  rw [ask, searches.find_eq]
  cases found : q.toPattern.findFrom f.cursor with
  | none =>
    refine ⟨.missed fun passed c d leads hits => ?_, searches⟩
    obtain ⟨m, hit, -⟩ := Query.hits_iff.mp hits
    rw [Pattern.matchAt_of_findFrom_eq_none found leads] at hit
    cases hit
  | some m =>
    obtain ⟨passed, reaches, hit, -⟩ := Pattern.exists_leads_of_findFrom found
    obtain ⟨taken, through⟩ := (Pattern.takes_of_matchAt hit).exists_leads
    have goesOn := goesOn_resume through
    obtain ⟨further, later⟩ := goesOn.exists_leads through
    obtain ⟨moved, there⟩ := searches.move (reaches.trans later)
    exact ⟨.found (first_of_findFrom found) (there.symm ▸ goesOn), moved⟩

theorem searches_askAll (searches : f.Searches source) (qs : List Query) :
    (f.askAll qs).2.Searches source := by
  induction qs generalizing f with
  | nil => exact searches
  | cons q qs ih => exact ih (serves_ask searches q).2

theorem Serves.isSome_iff (h : Serves source f q answer g) :
    answer.isSome = true ↔ ∃ passed c d, Leads f.cursor passed c ∧ q.Hits c d := by
  cases h with
  | found first goesOn =>
    obtain ⟨passed, leads⟩ := first.ahead
    exact ⟨fun _ => ⟨passed, _, _, leads, first.hits⟩, fun _ => rfl⟩
  | missed nowhere =>
    exact ⟨nofun, fun ⟨passed, c, d, leads, hits⟩ => absurd hits (nowhere passed c d leads)⟩

theorem Serves.of_first {c d : Cursor} (h : Serves source f q answer g)
    (first : q.First f.cursor c d) : answer = some (lineAt source c) ∧ GoesOn c d g.cursor := by
  cases h with
  | found first' goesOn =>
    obtain ⟨rfl, rfl⟩ := first.unique first'
    exact ⟨rfl, goesOn⟩
  | missed nowhere =>
    obtain ⟨passed, leads⟩ := first.ahead
    exact absurd first.hits (nowhere passed c d leads)

theorem Serves.exists_first (h : Serves source f q (some line) g) :
    ∃ c d, q.First f.cursor c d := by
  cases h with
  | found first goesOn => exact ⟨_, _, first⟩

theorem Serves.exists_leads (h : Serves source f q answer g) :
    ∃ passed, Leads f.cursor passed g.cursor := by
  cases h with
  | found first goesOn =>
    obtain ⟨passed, further, leads, later⟩ := first.exists_leads goesOn
    exact ⟨_, leads.trans later⟩
  | missed => exact ⟨[], .refl _⟩

theorem Serves.bounds (h : Serves source f q (some line) g) (stands : StandsIn source f.cursor) :
    lineAt source f.cursor ≤ line ∧ line ≤ lineAt source g.cursor := by
  cases h with
  | found first goesOn =>
    obtain ⟨passed, further, leads, later⟩ := first.exists_leads goesOn
    exact ⟨stands.lineAt_mono leads, (stands.move leads).lineAt_mono later⟩

def lines (f : LineFinder) (qs : List Query) : List Nat := (f.askAll qs).1.reduceOption

theorem lines_cons (f : LineFinder) (q : Query) (qs : List Query) :
    f.lines (q :: qs) = (f.ask q).1.toList ++ (f.ask q).2.lines qs := by
  rw [lines, askAll]
  cases (f.ask q).1 with
  | none => exact List.reduceOption_cons_of_none _
  | some line => exact List.reduceOption_cons_of_some line _

theorem mem_lines_bounds (searches : f.Searches source) {qs : List Query} (h : line ∈ f.lines qs) :
    lineAt source f.cursor ≤ line ∧ line ≤ source.toList.count '\n' + 1 := by
  induction qs generalizing f with
  | nil => cases h
  | cons q qs ih =>
    obtain ⟨served, searches'⟩ := serves_ask searches q
    have mono : lineAt source f.cursor ≤ lineAt source (f.ask q).2.cursor := by
      obtain ⟨passed, leads⟩ := served.exists_leads
      exact searches.standsIn.lineAt_mono leads
    rw [lines_cons] at h
    obtain now | later := List.mem_append.mp h
    · rw [Option.mem_toList.mp now] at served
      have bounds := served.bounds searches.standsIn
      exact ⟨bounds.1, bounds.2.trans searches'.standsIn.lineAt_le⟩
    · obtain ⟨low, high⟩ := ih searches' later
      exact ⟨mono.trans low, high⟩

theorem pairwise_lines (searches : f.Searches source) (qs : List Query) :
    (f.lines qs).Pairwise (· ≤ ·) := by
  induction qs generalizing f with
  | nil => exact List.Pairwise.nil
  | cons q qs ih =>
    obtain ⟨served, searches'⟩ := serves_ask searches q
    rw [lines_cons, List.pairwise_append]
    refine ⟨Option.pairwise_toList, ih searches', fun first now line later => ?_⟩
    rw [Option.mem_toList.mp now] at served
    exact (served.bounds searches.standsIn).2.trans (mem_lines_bounds searches' later).1

def after (source : String) (qs : List Query) : LineFinder := ((ofText source).askAll qs).2

theorem serves_after (source : String) (qs : List Query) :
    StandsIn source (after source qs).cursor ∧
      (after source qs).position = (after source qs).cursor.offset ∧
      String.Pos.Raw.IsValid source ⟨(after source qs).position⟩ ∧
      (after source qs).position ≤ source.utf8ByteSize ∧
      (∀ q, (after source qs).query q = .ok ((after source qs).find q) ∧
        Serves source (after source qs) q ((after source qs).ask q).1
          ((after source qs).ask q).2 ∧
        (((after source qs).ask q).1.isSome = true ↔
          ∃ passed c d, Leads (after source qs).cursor passed c ∧ q.Hits c d)) ∧
      ((ofText source).lines qs).Pairwise (· ≤ ·) ∧
      ∀ line ∈ (ofText source).lines qs, line ≤ source.toList.count '\n' + 1 := by
  have start := searches_ofText source
  have searches : (after source qs).Searches source := searches_askAll start qs
  have stands := searches.standsIn
  rw [searches.position_eq]
  refine ⟨stands, rfl, stands.isValid, stands.offset_le, fun q => ?_, pairwise_lines start qs,
    fun line h => (mem_lines_bounds start h).2⟩
  have served := (serves_ask searches q).1
  exact ⟨searches.query_eq q, served, served.isSome_iff⟩

end LineFinder

end GuidelineCompliance
