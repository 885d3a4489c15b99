import GuidelineCompliance.Proofs.Search

/-! What can be told about the groups of a match from the pattern alone: which groups take part
in every match, which parts of the pattern they are, which parts take at least one character, and
which characters they can take. A pattern that takes a character in every match is searched for
from the end of one match on. -/

namespace GuidelineCompliance.Pattern

/-- Every way to match takes at least one character. -/
def takesText : Pattern → Bool
  | empty => false
  | set _ => true
  | anchor _ => false
  | seq p q => p.takesText || q.takesText
  | alt p q => p.takesText && q.takesText
  | plus _ p => p.takesText
  | capture _ p => p.takesText

/-- A group takes part in every match. -/
def binds (group : Nat) : Pattern → Bool
  | empty => false
  | set _ => false
  | anchor _ => false
  | seq p q => p.binds group || q.binds group
  | alt p q => p.binds group && q.binds group
  | plus _ p => p.binds group
  | capture n p => n == group || p.binds group

def parts : Pattern → List (Nat × Pattern)
  | empty => []
  | set _ => []
  | anchor _ => []
  | seq p q => p.parts ++ q.parts
  | alt p q => p.parts ++ q.parts
  | plus _ p => p.parts
  | capture n p => (n, p) :: p.parts

def sets : Pattern → List CharSet
  | empty => []
  | set s => [s]
  | anchor _ => []
  | seq p q => p.sets ++ q.sets
  | alt p q => p.sets ++ q.sets
  | plus _ p => p.sets
  | capture _ p => p.sets

namespace Takes

variable {p : Pattern} {c d : Cursor} {caps caps' : Captures}

theorem offset_lt (h : Takes p c caps d caps') (hp : p.takesText = true) :
    c.offset < d.offset := by
  induction h with
  | empty => cases hp
  | @set s n before x rest caps mem =>
    have := x.utf8Size_pos
    simp only
    omega
  | anchor holds => cases hp
  | seq first second ihp ihq =>
    have before := first.offset_le
    have after := second.offset_le
    simp only [takesText, Bool.or_eq_true] at hp
    obtain hp | hq := hp
    · exact Nat.lt_of_lt_of_le (ihp hp) after
    · exact Nat.lt_of_le_of_lt before (ihq hq)
  | altLeft left ih =>
    simp only [takesText, Bool.and_eq_true] at hp
    exact ih hp.1
  | altRight right ih =>
    simp only [takesText, Bool.and_eq_true] at hp
    exact ih hp.2
  | once round ih => exact ih hp
  | again round rounds ihp ihq => exact Nat.lt_of_lt_of_le (ihp hp) rounds.offset_le
  | capture inner ih => exact ih hp

theorem chars_ne_nil (h : Takes p c caps d caps') (hp : p.takesText = true) :
    Span.chars ⟨c, d⟩ ≠ [] := by
  intro empty
  have same : d.offset = c.offset := by simpa [empty, octets] using h.offset_eq
  exact absurd (h.offset_lt hp) (by omega)

theorem mem_parts (h : Takes p c caps d caps') {group : Nat} {s : Span}
    (hs : (group, s) ∈ caps') : (group, s) ∈ caps ∨
      ∃ q k k', (group, q) ∈ p.parts ∧ Takes q s.start k s.stop k' := by
  induction h with
  | empty => exact Or.inl hs
  | set mem => exact Or.inl hs
  | anchor holds => exact Or.inl hs
  | seq first second ihp ihq =>
    obtain old | ⟨q, k, k', part, taken⟩ := ihq hs
    · obtain old | ⟨q, k, k', part, taken⟩ := ihp old
      · exact Or.inl old
      · exact Or.inr ⟨q, k, k', List.mem_append_left _ part, taken⟩
    · exact Or.inr ⟨q, k, k', List.mem_append_right _ part, taken⟩
  | altLeft left ih =>
    obtain old | ⟨q, k, k', part, taken⟩ := ih hs
    · exact Or.inl old
    · exact Or.inr ⟨q, k, k', List.mem_append_left _ part, taken⟩
  | altRight right ih =>
    obtain old | ⟨q, k, k', part, taken⟩ := ih hs
    · exact Or.inl old
    · exact Or.inr ⟨q, k, k', List.mem_append_right _ part, taken⟩
  | once round ih => exact ih hs
  | again round rounds ihp ihq =>
    obtain old | found := ihq hs
    · exact ihp old
    · exact Or.inr found
  | @capture n p c d caps caps' inner ih =>
    obtain same | later := List.mem_cons.mp hs
    · cases same
      exact Or.inr ⟨p, caps, caps', List.mem_cons_self, inner⟩
    · obtain old | ⟨q, k, k', part, taken⟩ := ih later
      · exact Or.inl old
      · exact Or.inr ⟨q, k, k', List.mem_cons_of_mem _ part, taken⟩

theorem exists_capture (h : Takes p c caps d caps') {group : Nat}
    (hg : p.binds group = true ∨ ∃ s, (group, s) ∈ caps) : ∃ s, (group, s) ∈ caps' := by
  induction h with
  | empty => exact hg.resolve_left Bool.false_ne_true
  | set mem => exact hg.resolve_left Bool.false_ne_true
  | anchor holds => exact hg.resolve_left Bool.false_ne_true
  | seq first second ihp ihq =>
    apply ihq
    simp only [binds, Bool.or_eq_true] at hg
    obtain (hp | hq) | old := hg
    · exact Or.inr (ihp (Or.inl hp))
    · exact Or.inl hq
    · exact Or.inr (ihp (Or.inr old))
  | altLeft left ih =>
    simp only [binds, Bool.and_eq_true] at hg
    exact ih (hg.imp_left And.left)
  | altRight right ih =>
    simp only [binds, Bool.and_eq_true] at hg
    exact ih (hg.imp_left And.right)
  | once round ih => exact ih hg
  | again round rounds ihp ihq => exact ihq (Or.inr (ihp hg))
  | @capture n p c d caps caps' inner ih =>
    simp only [binds, Bool.or_eq_true, beq_iff_eq, or_assoc] at hg
    obtain rfl | rest := hg
    · exact ⟨_, List.mem_cons_self⟩
    · obtain ⟨s, hs⟩ := ih rest
      exact ⟨s, List.mem_cons_of_mem _ hs⟩

theorem exists_mem_sets (h : Takes p c caps d caps') {taken : List Char}
    (split : c.rest = taken ++ d.rest) {x : Char} (hx : x ∈ taken) :
    ∃ s ∈ p.sets, s.mem x = true := by
  induction h generalizing taken with
  | empty =>
    rw [List.self_eq_append_left.mp split] at hx
    cases hx
  | @set s n before y rest caps mem =>
    have one : [y] ++ rest = taken ++ rest := split
    obtain rfl : [y] = taken := List.append_cancel_right one
    rw [List.mem_singleton] at hx
    subst hx
    exact ⟨s, List.mem_singleton_self s, mem⟩
  | anchor =>
    rw [List.self_eq_append_left.mp split] at hx
    cases hx
  | @seq p q c d e caps caps' caps'' first second ihp ihq =>
    obtain ⟨u, hu⟩ := first.exists_leads
    obtain ⟨v, hv⟩ := second.exists_leads
    obtain rfl : taken = u ++ v := by
      rw [(hu.trans hv).rest] at split
      exact (List.append_cancel_right split).symm
    obtain left | right := List.mem_append.mp hx
    · obtain ⟨s, hs, mem⟩ := ihp hu.rest left
      exact ⟨s, List.mem_append_left _ hs, mem⟩
    · obtain ⟨s, hs, mem⟩ := ihq hv.rest right
      exact ⟨s, List.mem_append_right _ hs, mem⟩
  | altLeft left ih =>
    obtain ⟨s, hs, mem⟩ := ih split hx
    exact ⟨s, List.mem_append_left _ hs, mem⟩
  | altRight right ih =>
    obtain ⟨s, hs, mem⟩ := ih split hx
    exact ⟨s, List.mem_append_right _ hs, mem⟩
  | once round ih => exact ih split hx
  | again round rounds ihp ihq =>
    obtain ⟨u, hu⟩ := round.exists_leads
    obtain ⟨v, hv⟩ := rounds.exists_leads
    obtain rfl : taken = u ++ v := by
      rw [(hu.trans hv).rest] at split
      exact (List.append_cancel_right split).symm
    obtain left | right := List.mem_append.mp hx
    · exact ihp hu.rest left
    · exact ihq hv.rest right
  | capture inner ih => exact ih split hx

end Takes

theorem group_ne_empty {p : Pattern} {m : Match}
    (h : Takes p m.span.start [] m.span.stop m.captures) {group : Nat}
    (bound : p.binds group = true)
    (text : ∀ part ∈ p.parts, part.1 = group → part.2.takesText = true) :
    m.group group ≠ "" := by
  obtain ⟨s', hs'⟩ := h.exists_capture (Or.inl bound)
  have taken : (m.captures.lookup group).isSome = true :=
    List.lookup_isSome_iff.mpr ⟨(group, s'), hs', beq_self_eq_true group⟩
  obtain ⟨s, hs⟩ := Option.isSome_iff_exists.mp taken
  obtain old | ⟨q, k, k', part, inner⟩ := h.mem_parts (Match.mem_captures_of_span? hs)
  · cases old
  · have chars : s.chars ≠ [] := inner.chars_ne_nil (text _ part rfl)
    simpa [Match.group, Match.group?, Match.span?, hs, Span.text] using chars

theorem mem_sets_of_mem_group {p : Pattern} {m : Match}
    (h : Takes p m.span.start [] m.span.stop m.captures) {group : Nat} {x : Char}
    (hx : x ∈ (m.group group).toList) :
    ∃ part ∈ p.parts, part.1 = group ∧ ∃ s ∈ part.2.sets, s.mem x = true := by
  cases hs : m.span? group with
  | none => simp [Match.group, Match.group?, hs] at hx
  | some s =>
    have chars : x ∈ s.chars := by simpa [Match.group, Match.group?, hs, Span.text] using hx
    obtain old | ⟨q, k, k', part, inner⟩ := h.mem_parts (Match.mem_captures_of_span? hs)
    · cases old
    · obtain ⟨taken, leads⟩ := inner.exists_leads
      have hx : x ∈ taken := leads.chars ▸ chars
      exact ⟨_, part, rfl, inner.exists_mem_sets leads.rest hx⟩

/-- Directly behind a match there is no empty one to be passed over. -/
theorem findAllFrom_succ {p : Pattern} (text : p.takesText = true) (n : Nat) (touching : Bool)
    (c : Cursor) :
    findAllFrom p (n + 1) touching c =
      match p.findFrom c with
      | none => []
      | some m => m :: findAllFrom p n true m.span.stop := by
  rw [findAllFrom]
  cases found : p.findFrom c with
  | none => rfl
  | some m =>
    obtain ⟨passed, reaches, here, -⟩ := exists_leads_of_findFrom found
    have moves := (takes_of_matchAt here).offset_lt text
    have offset := reaches.offset
    have ahead : m.span.stop.offset ≠ c.offset := by omega
    simp [ahead]

end GuidelineCompliance.Pattern
