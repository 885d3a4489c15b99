import GuidelineCompliance.Analyzer.Known
import GuidelineCompliance.Proofs.Search

/-! The stretches of a source text that a comment pattern captures. A comment begins with a mark, so
between a captured stretch and the next one there is text. -/

namespace GuidelineCompliance.Pattern

structure Within (s : Span) (c d : Cursor) : Prop where
  before : ∃ passed, Leads c passed s.start
  inner : ∃ passed, Leads s.start passed s.stop
  after : ∃ passed, Leads s.stop passed d

namespace Within

variable {b c d e : Cursor} {s : Span} {passed : List Char}

theorem widen_left (h : Within s c d) (hb : Leads b passed c) : Within s b d where
  before := h.before.imp' _ fun _ leads => hb.trans leads
  inner := h.inner
  after := h.after

theorem widen_right (h : Within s c d) (he : Leads d passed e) : Within s c e where
  before := h.before
  inner := h.inner
  after := h.after.imp' _ fun _ leads => leads.trans he

end Within

theorem Takes.within {p : Pattern} {c d : Cursor} {caps caps' : Captures} {group : Nat} {s : Span}
    (h : Takes p c caps d caps') (hs : (group, s) ∈ caps') : (group, s) ∈ caps ∨ Within s c d := by
  induction h with
  | empty => exact Or.inl hs
  | set mem => exact Or.inl hs
  | anchor holds => exact Or.inl hs
  | seq first second ihp ihq =>
    obtain ⟨u, hu⟩ := first.exists_leads
    obtain ⟨v, hv⟩ := second.exists_leads
    obtain early | late := ihq hs
    · exact (ihp early).imp_right (·.widen_right hv)
    · exact Or.inr (late.widen_left hu)
  | altLeft left ih => exact ih hs
  | altRight right ih => exact ih hs
  | once round ih => exact ih hs
  | again round rounds ihp ihq =>
    obtain ⟨u, hu⟩ := round.exists_leads
    obtain ⟨v, hv⟩ := rounds.exists_leads
    obtain early | late := ihq hs
    · exact (ihp early).imp_right (·.widen_right hv)
    · exact Or.inr (late.widen_left hu)
  | capture inner ih =>
    obtain new | old := List.mem_cons.mp hs
    · cases new
      exact Or.inr ⟨⟨[], .refl _⟩, inner.exists_leads, ⟨[], .refl _⟩⟩
    · exact ih old

/-- Every way in which the pattern matches begins with one character. -/
inductive OpensWith (x : Char) : Pattern → Prop where
  | char : OpensWith x (char x)
  | seq {p q} (first : OpensWith x p) : OpensWith x (.seq p q)
  | alt {p q} (left : OpensWith x p) (right : OpensWith x q) : OpensWith x (.alt p q)

/-- Stretches one behind the other from a place on, each with text before it. -/
inductive Strung : Cursor → List Span → Prop where
  | nil {c} : Strung c []
  | cons {c s spans x gap passed} (before : Leads c (x :: gap) s.start)
    (inner : Leads s.start passed s.stop) (rest : Strung s.stop spans) : Strung c (s :: spans)

theorem Strung.widen {b c : Cursor} {passed : List Char} {spans : List Span} (h : Strung c spans)
    (hb : Leads b passed c) : Strung b spans := by
  cases h with
  | nil => exact .nil
  | cons before inner rest =>
    have whole := hb.trans before
    cases passed with
    | nil => exact .cons whole inner rest
    | cons y passed => exact .cons whole inner rest

theorem Strung.before_head {c : Cursor} {spans : List Span} (h : Strung c spans) {s : Span}
    (hs : s ∈ spans.head?) : ∃ x gap, Leads c (x :: gap) s.start := by
  cases h with
  | nil => cases hs
  | cons before inner rest =>
    cases hs
    exact ⟨_, _, before⟩

namespace OpensWith

variable {p : Pattern} {x : Char}

theorem exists_before (opens : OpensWith x p) {c d : Cursor} {caps caps' : Captures}
    (h : Takes p c caps d caps') : ∃ b, Leads c [x] b ∧ (∃ passed, Leads b passed d) ∧
      ∀ {group : Nat} {s : Span}, (group, s) ∈ caps' → (group, s) ∈ caps ∨ Within s b d := by
  induction opens generalizing c d caps caps' with
  | char =>
    cases h with
    | @set _ n before y rest _ mem =>
      obtain rfl : y = x := by simpa using mem
      exact ⟨_, .step, ⟨[], .refl _⟩, Or.inl⟩
  | seq opens ih =>
    cases h with
    | seq first second =>
      obtain ⟨b, mark, ⟨u, hu⟩, early⟩ := ih first
      obtain ⟨v, hv⟩ := second.exists_leads
      refine ⟨b, mark, ⟨u ++ v, hu.trans hv⟩, fun hs => ?_⟩
      obtain old | late := second.within hs
      · exact (early old).imp_right (·.widen_right hv)
      · exact Or.inr (late.widen_left hu)
  | alt left right ihl ihr =>
    cases h with
    | altLeft taken => exact ihl taken
    | altRight taken => exact ihr taken

theorem strung_findAllFrom (opens : OpensWith x p) {group : Match → Option Span}
    (hgroup : ∀ m s, group m = some s → ∃ n, (n, s) ∈ m.captures) (n : Nat) (touching : Bool)
    (c : Cursor) : Strung c ((p.findAllFrom n touching c).filterMap group) := by
  induction n generalizing touching c with
  | zero => exact .nil
  | succ n ih =>
    simp only [findAllFrom]
    split
    · exact .nil
    · rename_i m found
      obtain ⟨before, reaches, here, -⟩ := exists_leads_of_findFrom found
      have takes := takes_of_matchAt here
      obtain ⟨passed, through⟩ := takes.exists_leads
      split
      · split
        · exact .nil
        · rename_i d next
          obtain ⟨y, one⟩ := Leads.next next
          exact (ih false d).widen one
      · have later := ih true m.span.stop
        rw [List.filterMap_cons]
        cases hm : group m with
        | none => exact (later.widen through).widen reaches
        | some s =>
          obtain ⟨number, hs⟩ := hgroup m s hm
          obtain ⟨b, mark, -, inside⟩ := opens.exists_before takes
          obtain ⟨⟨u, hu⟩, ⟨v, hv⟩, ⟨w, hw⟩⟩ := (inside hs).resolve_left List.not_mem_nil
          exact Strung.widen (.cons (mark.trans hu) hv (later.widen hw)) reaches

end OpensWith

/-- The stretch that a comment pattern captures of a comment: one of two groups. -/
def Match.comment? (m : Match) : Option Span := (m.span? 1).or (m.span? 2)

theorem Match.exists_mem_captures_of_comment? (m : Match) (s : Span) (h : m.comment? = some s) :
    ∃ n, (n, s) ∈ m.captures := by
  obtain first | ⟨-, second⟩ := Option.or_eq_some_iff.mp h
  · exact ⟨1, mem_captures_of_span? first⟩
  · exact ⟨2, mem_captures_of_span? second⟩

def captured (p : Pattern) (source : String) : List Span :=
  (p.findAll source).filterMap Match.comment?

theorem OpensWith.strung_captured {p : Pattern} {x : Char} (opens : OpensWith x p)
    (source : String) : Strung (.ofText source.toList) (p.captured source) :=
  opens.strung_findAllFrom Match.exists_mem_captures_of_comment? _ _ _

end GuidelineCompliance.Pattern

namespace GuidelineCompliance.Analyzer

open Pattern

inductive FindsComments : Analyzer → Pattern → Prop where
  | pcLint : FindsComments PcLint.analyzer PcLint.commentPattern
  | cppcheck : FindsComments Cppcheck.analyzer Cppcheck.commentPattern

namespace FindsComments

variable {analyzer : Analyzer} {p : Pattern}

theorem opensWith (h : FindsComments analyzer p) : OpensWith '/' p := by
  cases h with
  | pcLint => exact .alt (.seq (.seq .char)) (.seq (.seq .char))
  | cppcheck => exact .alt (.seq (.seq .char)) (.seq (.seq .char))

theorem comments_eq (h : FindsComments analyzer p) (edition : Edition) (reference source : String) :
    (analyzer.reader edition reference).comments source = (p.captured source).map Span.text := by
  have texts (p : Pattern) : ((p.findAll source).filterMap fun m => (m.group? 1).or (m.group? 2)) =
      (p.captured source).map Span.text := by
    rw [captured, List.map_filterMap]
    congr
    funext m
    simp only [Match.comment?, Match.group?, Option.map_or]
  cases h with
  | pcLint => exact texts PcLint.commentPattern
  | cppcheck => exact texts Cppcheck.commentPattern

end FindsComments

end GuidelineCompliance.Analyzer
