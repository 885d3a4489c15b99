import GuidelineCompliance.Proofs.Places

/-! What a pattern can take, as a relation between two places in a text, and the soundness of
matching: every match is one that the relation allows. The relation forgets which of several ways
is preferred. -/

namespace GuidelineCompliance.Pattern

inductive Takes : Pattern → Cursor → Captures → Cursor → Captures → Prop where
  | empty {c caps} : Takes .empty c caps c caps
  | set {s n before x rest caps} (mem : s.mem x = true) :
    Takes (.set s) ⟨n, before, x :: rest⟩ caps ⟨n + x.utf8Size, some x, rest⟩ caps
  | anchor {a c caps} (holds : a.holds c.before c.rest.head? = true) :
    Takes (.anchor a) c caps c caps
  | seq {p q c d e caps caps' caps''} (first : Takes p c caps d caps')
    (second : Takes q d caps' e caps'') : Takes (.seq p q) c caps e caps''
  | altLeft {p q c d caps caps'} (left : Takes p c caps d caps') : Takes (.alt p q) c caps d caps'
  | altRight {p q c d caps caps'} (right : Takes q c caps d caps') : Takes (.alt p q) c caps d caps'
  | once {greedy p c d caps caps'} (round : Takes p c caps d caps') :
    Takes (.plus greedy p) c caps d caps'
  | again {greedy p c d e caps caps' caps''} (round : Takes p c caps d caps')
    (rounds : Takes (.plus greedy p) d caps' e caps'') : Takes (.plus greedy p) c caps e caps''
  | capture {group p c d caps caps'} (inner : Takes p c caps d caps') :
    Takes (.capture group p) c caps d ((group, ⟨c, d⟩) :: caps')

/-- A pattern and what follows it succeed together only if the pattern takes a stretch and what
follows succeeds behind it. -/
def Sound (p : Pattern) : Prop :=
  ∀ {α : Type} {k : Follow α} {c : Cursor} {caps : Captures} {r : α}, run p k c caps = some r →
    ∃ d caps', Takes p c caps d caps' ∧ k d caps' = some r

theorem rounds_sound {p : Pattern} (sound : Sound p) {α : Type} {k : Follow α} {greedy : Bool}
    {n : Nat} {c : Cursor} {caps : Captures} {r : α}
    (h : rounds (run p) greedy k n c caps = some r) :
    k c caps = some r ∨ ∃ d caps', Takes (.plus greedy p) c caps d caps' ∧ k d caps' = some r := by
  induction n generalizing c caps with
  | zero => exact Or.inl h
  | succ n ih =>
    have more (again : run p (fun d caps => if d.offset = c.offset then none
        else rounds (run p) greedy k n d caps) c caps = some r) :
        ∃ d caps', Takes (.plus greedy p) c caps d caps' ∧ k d caps' = some r := by
      obtain ⟨d, caps', round, later⟩ := sound again
      split at later
      · cases later
      · obtain done | ⟨e, caps'', rest, done⟩ := ih later
        · exact ⟨d, caps', .once round, done⟩
        · exact ⟨e, caps'', .again round rest, done⟩
    cases greedy with
    | true =>
      simp only [rounds, if_true] at h
      split at h
      · rename_i again
        exact Or.inr (more (again.trans h))
      · exact Or.inl h
    | false =>
      simp only [rounds, Bool.false_eq_true, if_false] at h
      split at h
      · rename_i done
        exact Or.inl (done.trans h)
      · exact Or.inr (more h)

theorem run_sound (p : Pattern) : Sound p := by
  induction p with
  | empty => exact fun h => ⟨_, _, .empty, h⟩
  | set s =>
    rintro α k ⟨n, before, rest⟩ caps r h
    cases rest with
    | nil => cases h
    | cons x rest =>
      simp only [run] at h
      split at h
      · rename_i mem
        exact ⟨_, _, .set mem, h⟩
      · cases h
  | anchor a =>
    intro α k c caps r h
    simp only [run] at h
    split at h
    · rename_i holds
      exact ⟨_, _, .anchor holds, h⟩
    · cases h
  | seq p q ihp ihq =>
    intro α k c caps r h
    obtain ⟨d, caps', first, later⟩ := ihp h
    obtain ⟨e, caps'', second, done⟩ := ihq later
    exact ⟨e, caps'', .seq first second, done⟩
  | alt p q ihp ihq =>
    intro α k c caps r h
    simp only [run] at h
    split at h
    · rename_i left
      obtain ⟨d, caps', taken, done⟩ := ihp left
      exact ⟨d, caps', .altLeft taken, done.trans h⟩
    · obtain ⟨d, caps', taken, done⟩ := ihq h
      exact ⟨d, caps', .altRight taken, done⟩
  | plus greedy p ih =>
    intro α k c caps r h
    obtain ⟨d, caps', round, later⟩ := ih h
    split at later
    · exact ⟨d, caps', .once round, later⟩
    · obtain done | ⟨e, caps'', rest, done⟩ := rounds_sound ih later
      · exact ⟨d, caps', .once round, done⟩
      · exact ⟨e, caps'', .again round rest, done⟩
  | capture group p ih =>
    intro α k c caps r h
    obtain ⟨d, caps', inner, done⟩ := ih h
    exact ⟨d, _, .capture inner, done⟩

theorem Match.mem_captures_of_span? {m : Match} {group : Nat} {s : Span}
    (h : m.span? group = some s) : (group, s) ∈ m.captures := by
  obtain ⟨before, after, split, -⟩ := List.lookup_eq_some_iff.mp h
  simp [split]

theorem takes_of_matchAt {p : Pattern} {c : Cursor} {m : Match} (h : p.matchAt c = some m) :
    Takes p m.span.start [] m.span.stop m.captures := by
  obtain ⟨d, caps, taken, done⟩ := run_sound p h
  cases done
  exact taken

namespace Takes

variable {p : Pattern} {c d : Cursor} {caps caps' : Captures}

theorem exists_leads (h : Takes p c caps d caps') : ∃ taken, Leads c taken d := by
  induction h with
  | empty => exact ⟨[], .refl _⟩
  | set mem => exact ⟨_, .step⟩
  | anchor => exact ⟨[], .refl _⟩
  | seq first second ihp ihq =>
    obtain ⟨u, hu⟩ := ihp
    obtain ⟨v, hv⟩ := ihq
    exact ⟨u ++ v, hu.trans hv⟩
  | altLeft left ih => exact ih
  | altRight right ih => exact ih
  | once round ih => exact ih
  | again round rounds ihp ihq =>
    obtain ⟨u, hu⟩ := ihp
    obtain ⟨v, hv⟩ := ihq
    exact ⟨u ++ v, hu.trans hv⟩
  | capture inner ih => exact ih

theorem offset_eq (h : Takes p c caps d caps') :
    d.offset = c.offset + octets (Span.chars ⟨c, d⟩) := by
  obtain ⟨taken, leads⟩ := h.exists_leads
  rw [leads.chars, leads.offset]

theorem offset_le (h : Takes p c caps d caps') : c.offset ≤ d.offset := by
  rw [h.offset_eq]
  exact Nat.le_add_right _ _

end Takes

end GuidelineCompliance.Pattern
