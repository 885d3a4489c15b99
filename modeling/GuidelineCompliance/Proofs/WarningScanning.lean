import GuidelineCompliance.Proofs.WrittenWarnings

/-! Scanning a warning for references. Each reference of a list is found in its turn. In front of
one there may be other matches, and one that begins too early may take in the reference behind it,
but no match goes on behind the bracket that closes a reference. -/

namespace GuidelineCompliance.PcLint

open Pattern WrittenReference

variable {c d : Cursor} {m : Match} {r : WrittenReference}

theorem takesText_referencePattern : referencePattern.takesText = true := by decide

theorem matchAt_eq_none_iff : referencePattern.matchAt c = none ↔ ¬ BeginsReference c.rest := by
  constructor
  · intro empty begins
    obtain ⟨m, found, -⟩ := exists_matchAt_of_beginsReference begins
    rw [found] at empty
    cases empty
  · intro empty
    rw [Option.eq_none_iff_forall_ne_some]
    exact fun m found => empty (beginsReference_of_matchAt found)

theorem matchAt_eq_none_of_head (h : ∀ x ∈ c.rest.head?, x ≠ '[') :
    referencePattern.matchAt c = none := by
  rw [Option.eq_none_iff_forall_ne_some]
  exact fun m found => not_prefix_of_head?_ne rfl h (beginsReference_of_matchAt found).marked

theorem matchAt_eq_none_of_leads {gap rest u : List Char} {e : Cursor} (free : '[' ∉ gap)
    (hc : c.rest = gap ++ rest) (hu : Leads c u e) (short : u.length < gap.length) :
    referencePattern.matchAt e = none := by
  obtain ⟨b, before, -⟩ := Leads.exists_of_rest hc
  obtain ⟨behind, rfl, later⟩ := hu.between before (Nat.le_of_lt short)
  refine matchAt_eq_none_of_head fun x hx same => free ?_
  cases behind with
  | nil => simp at short
  | cons y behind =>
    obtain rfl : y = x := by simpa [later.rest] using hx
    simp [same]

/-- A reference begins within the first characters of a text. It may go on behind them. -/
def BeginsWithin (n : Nat) (cs : List Char) : Prop :=
  ∃ u rest, cs = u ++ rest ∧ u.length < n ∧ BeginsReference rest

theorem idle_iff_not_beginsWithin {front gap rest : List Char} (free : '[' ∉ gap)
    (hc : c.rest = front ++ (gap ++ rest)) :
    (∀ u e, Leads c u e → u.length < (front ++ gap).length → referencePattern.matchAt e = none) ↔
      ¬ BeginsWithin front.length c.rest := by
  constructor
  · rintro idle ⟨u, cs, split, short, begins⟩
    obtain ⟨e, leads, rfl⟩ := Leads.exists_of_rest split
    refine matchAt_eq_none_iff.mp (idle u e leads ?_) begins
    rw [List.length_append]
    omega
  · intro empty u e hu short
    obtain early | late := Nat.lt_or_ge u.length front.length
    · exact matchAt_eq_none_iff.mpr fun begins => empty ⟨u, e.rest, hu.rest, early, begins⟩
    · obtain ⟨b, before, hb⟩ := Leads.exists_of_rest hc
      obtain ⟨behind, rfl, later⟩ := before.between hu late
      refine matchAt_eq_none_of_leads free hb later ?_
      simp only [List.length_append] at short
      omega

theorem not_beginsWithin {front cs : List Char} (free : '[' ∉ front) (h : front <+: cs) :
    ¬ BeginsWithin front.length cs := by
  rintro ⟨u, rest, rfl, short, begins⟩
  obtain ⟨behind, rfl⟩ := List.prefix_of_prefix_length_le ⟨rest, rfl⟩ h (Nat.le_of_lt short)
  rw [List.prefix_append_right_inj] at h
  cases behind with
  | nil => simp at short
  | cons x behind =>
    obtain rfl : '[' = x := by
      obtain ⟨more, rfl⟩ := h
      obtain ⟨tail, same⟩ := begins.marked
      simpa [mark_eq] using congrArg List.head? same
    simp at free

theorem findAllFrom_of_idle (proper : r.Proper) {gap tail : List Char} (n : Nat) (touching : Bool)
    (hc : c.rest = gap ++ (r.opening ++ ']' :: tail))
    (idle : ∀ u e, Leads c u e → u.length < gap.length → referencePattern.matchAt e = none) :
    ∃ m d, referencePattern.findAllFrom (n + 1) touching c =
      m :: referencePattern.findAllFrom n true d ∧ m.group 1 = r.id ∧ d.rest = tail := by
  obtain ⟨b, before, hb⟩ := Leads.exists_of_rest hc
  rw [List.append_cons] at hb
  obtain ⟨d, reference, hd⟩ := Leads.exists_of_rest hb
  obtain ⟨m, found, rfl, id⟩ := exists_matchAt_reference proper.readable reference
  refine ⟨m, m.span.stop, ?_, id, hd⟩
  rw [findAllFrom_succ takesText_referencePattern, findFrom_skip before idle,
    findFrom_of_matchAt found]

theorem following_cons (r : WrittenReference) (rs : List WrittenReference) :
    following (r :: rs) = [',', ' '] ++ (r.opening ++ ']' :: following rs) := by
  rw [following, toList_writeAll_cons]
  rfl

theorem map_findAllFrom_following {rs : List WrittenReference} (proper : ∀ r ∈ rs, r.Proper)
    {n : Nat} (touching : Bool) (hc : c.rest = following rs) (fuel : c.rest.length < n) :
    (referencePattern.findAllFrom n touching c).map (·.group 1) = rs.map WrittenReference.id := by
  obtain ⟨n, rfl⟩ : ∃ n', n = n' + 1 := Nat.exists_eq_add_one_of_ne_zero (by omega)
  induction rs generalizing n touching c with
  | nil =>
    have empty : referencePattern.matchAt c = none :=
      matchAt_eq_none_of_head (by simp [hc, following])
    rw [findAllFrom_succ takesText_referencePattern, findFrom_of_rest_eq_nil hc, empty]
    rfl
  | cons r rs ih =>
    obtain ⟨first, rest⟩ := List.forall_mem_cons.mp proper
    rw [following_cons] at hc
    obtain ⟨m, d, found, id, hd⟩ := findAllFrom_of_idle first n touching hc fun u e =>
      matchAt_eq_none_of_leads (by decide) hc
    obtain ⟨n, rfl⟩ : ∃ n', n = n' + 1 :=
      Nat.exists_eq_add_one_of_ne_zero (by simp [hc] at fuel; omega)
    have fuel' : d.rest.length < n + 1 := by
      simp only [hc, hd, List.length_append, List.length_cons] at fuel ⊢
      omega
    rw [found, List.map_cons, List.map_cons, id, ih rest true hd n fuel']

theorem rest_stop_of_matchAt {front tail : List Char} (h : referencePattern.matchAt c = some m)
    (hc : c.rest = front ++ ']' :: tail) (free : ']' ∉ front) : m.span.stop.rest = tail := by
  obtain ⟨read, readable, -, leads⟩ := exists_readable_of_matchAt h
  have whole : read.opening ++ [']'] <+: c.rest := ⟨m.span.stop.rest, leads.rest.symm⟩
  have same := Text.eq_of_prefix_append_cons readable.noClose free (hc ▸ whole)
  have split := leads.rest.symm.trans hc
  rw [same] at split
  simpa using split

theorem exists_match_to_end (proper : r.Proper) {gap tail : List Char} {n : Nat} (touching : Bool)
    (hc : c.rest = gap ++ (r.opening ++ ']' :: tail)) (fuel : c.rest.length < n) :
    ∃ ms m n' d, referencePattern.findAllFrom n touching c =
        ms ++ m :: referencePattern.findAllFrom n' true d ∧
      d.rest = tail ∧ tail.length < n' ∧
      (ms = [] → referencePattern.findFrom c = some m ∧ m.span.stop = d) := by
  induction n generalizing c gap touching with
  | zero => cases fuel
  | succ n ih =>
    obtain ⟨b, toReference, hb⟩ := Leads.exists_of_rest hc
    rw [List.append_cons] at hb
    obtain ⟨e, reference, -⟩ := Leads.exists_of_rest hb
    obtain ⟨there, atReference, -, -⟩ := exists_matchAt_reference proper.readable reference
    cases found : referencePattern.findFrom c with
    | none =>
      rw [matchAt_of_findFrom_eq_none found toReference] at atReference
      cases atReference
    | some m =>
      obtain ⟨passed, toMatch, here, idle⟩ := exists_leads_of_findFrom found
      have le : passed.length ≤ gap.length := Nat.le_of_not_lt fun late => by
        rw [idle gap b toReference late] at atReference
        cases atReference
      obtain ⟨gap', rfl, between⟩ := toMatch.between toReference le
      have rest : m.span.start.rest = gap' ++ (r.opening ++ ']' :: tail) := by
        rw [between.rest, hb, ← List.append_cons]
      rw [findAllFrom_succ takesText_referencePattern, found]
      by_cases closed : ']' ∈ gap'
      · obtain ⟨front, back, rfl, free⟩ := List.eq_append_cons_of_mem closed
        rw [List.append_assoc, List.cons_append] at rest
        have behind := rest_stop_of_matchAt here rest free
        have fuel' : m.span.stop.rest.length < n := by
          rw [behind]
          rw [hc] at fuel
          simp only [List.length_append, List.length_cons] at fuel ⊢
          omega
        obtain ⟨ms, m', n', d, later, hd, fuel', -⟩ := ih true behind fuel'
        exact ⟨m :: ms, m', n', d, congrArg (m :: ·) later, hd, fuel', nofun⟩
      · have free : ']' ∉ gap' ++ r.opening := by simp [closed, proper.readable.noClose]
        rw [← List.append_assoc] at rest
        have behind := rest_stop_of_matchAt here rest free
        refine ⟨[], m, n, m.span.stop, rfl, behind, ?_, fun _ => ⟨rfl, rfl⟩⟩
        rw [hc] at fuel
        simp only [List.length_append, List.length_cons] at fuel
        omega

theorem length_le_findAllFrom_following {rs : List WrittenReference}
    (proper : ∀ r ∈ rs, r.Proper) {n : Nat} (touching : Bool) (hc : c.rest = following rs)
    (fuel : c.rest.length < n) :
    rs.length ≤ (referencePattern.findAllFrom n touching c).length := by
  induction rs generalizing n touching c with
  | nil => exact Nat.zero_le _
  | cons r rs ih =>
    obtain ⟨first, rest⟩ := List.forall_mem_cons.mp proper
    rw [following_cons] at hc
    obtain ⟨ms, m, n', d, found, hd, fuel', -⟩ := exists_match_to_end first touching hc fuel
    have later := ih rest true hd (hd ▸ fuel')
    rw [found, List.length_append, List.length_cons, List.length_cons]
    omega

/-- A match that begins early and ends with a reference takes in more than its id. -/
theorem group_ne_id_of_early (proper : r.Proper) {gap tail : List Char} (nonempty : gap ≠ [])
    (hc : c.rest = gap ++ (r.opening ++ ']' :: tail)) (h : referencePattern.matchAt c = some m)
    (stop : m.span.stop.rest = tail) : m.group 1 ≠ r.id := by
  intro same
  obtain ⟨read, readable, id, leads⟩ := exists_readable_of_matchAt h
  have whole : read.opening = gap ++ r.opening := by
    have split := leads.rest.symm.trans hc
    rw [stop, ← List.append_assoc gap, List.append_assoc _ [']']] at split
    exact List.append_cancel_right split
  -- The stretch in front begins with a bracket of its own.
  obtain ⟨gap, rfl⟩ : ∃ gap', gap = '[' :: gap' := by
    obtain ⟨x, gap, rfl⟩ := List.exists_cons_of_ne_nil nonempty
    have head := congrArg List.head? whole
    simp [opening, mark_eq] at head
    exact ⟨gap, by rw [head]⟩
  have count := congrArg (List.count '[') whole
  simp only [List.count_append, readable.count_open, proper.readable.count_open, ← id, same,
    List.count_cons, beq_self_eq_true, if_true] at count
  omega

theorem map_findAllFrom_eq_iff {rs : List WrittenReference} (proper : ∀ r' ∈ r :: rs, r'.Proper)
    {gap : List Char} {n : Nat} (touching : Bool)
    (hc : c.rest = gap ++ (r.opening ++ ']' :: following rs)) (fuel : c.rest.length < n) :
    (referencePattern.findAllFrom n touching c).map (·.group 1) =
        (r :: rs).map WrittenReference.id ↔
      ∀ u e, Leads c u e → u.length < gap.length → referencePattern.matchAt e = none := by
  obtain ⟨first, rest⟩ := List.forall_mem_cons.mp proper
  constructor
  · intro read u e hu short
    obtain ⟨ms, m, n', d, found, hd, fuel', alone⟩ := exists_match_to_end first touching hc fuel
    have later := length_le_findAllFrom_following rest true hd (hd ▸ fuel')
    -- Every other reference has a match of its own, so there is one match left for this one.
    have lengths := congrArg List.length read
    rw [found] at lengths read
    simp only [List.length_map, List.length_append, List.length_cons] at lengths
    obtain rfl : ms = [] := List.eq_nil_of_length_eq_zero (by omega)
    obtain ⟨foundFirst, rfl⟩ := alone rfl
    obtain ⟨id, -⟩ := List.cons.inj read
    obtain ⟨passed, toMatch, here, idle⟩ := exists_leads_of_findFrom foundFirst
    by_contra early
    have sooner : passed.length ≤ u.length := Nat.le_of_not_lt fun late => early (idle u e hu late)
    obtain ⟨b, toReference, hb⟩ := Leads.exists_of_rest hc
    obtain ⟨gap', rfl, between⟩ := toMatch.between toReference (by omega)
    have nonempty : gap' ≠ [] := by
      rintro rfl
      simp at short
      omega
    exact group_ne_id_of_early first nonempty (hb ▸ between.rest) here hd id
  · intro idle
    obtain ⟨n, rfl⟩ : ∃ n', n = n' + 1 := Nat.exists_eq_add_one_of_ne_zero (by omega)
    obtain ⟨m, d, found, id, hd⟩ := findAllFrom_of_idle first n touching hc idle
    rw [found, List.map_cons, List.map_cons, id, map_findAllFrom_following rest true hd]
    rw [hc] at fuel
    simp only [hd, List.length_append, List.length_cons] at fuel ⊢
    omega

end GuidelineCompliance.PcLint
