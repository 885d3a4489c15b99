import GuidelineCompliance.Proofs.Takes

/-! Searches. A search answers for the first place at which the pattern matches. For a literal text
that is the place where the text first occurs. -/

namespace GuidelineCompliance.Pattern

variable {p : Pattern} {c d : Cursor} {passed : List Char} {m : Match}

theorem start_of_matchAt (h : p.matchAt c = some m) : m.span.start = c := by
  obtain ⟨d, caps, -, done⟩ := run_sound p h
  cases done
  rfl

theorem findFrom_of_rest_eq_nil (h : c.rest = []) : p.findFrom c = p.matchAt c := by
  obtain ⟨n, before, rest⟩ := c
  cases h
  rfl

theorem findFrom_step {x : Char} (h : Leads c [x] d) :
    p.findFrom c = (p.matchAt c).or (p.findFrom d) := by
  obtain ⟨n, before, rest⟩ := c
  obtain ⟨rest', rfl⟩ : ∃ rest', rest = x :: rest' := ⟨d.rest, h.rest⟩
  rw [h.unique .step, findFrom, findIn]
  cases p.matchAt ⟨n, before, x :: rest'⟩ <;> rfl

theorem findFrom_of_matchAt (h : p.matchAt c = some m) : p.findFrom c = some m := by
  obtain ⟨n, before, rest⟩ := c
  cases rest with
  | nil => rw [findFrom_of_rest_eq_nil rfl, h]
  | cons x rest => rw [findFrom_step .step, h, Option.some_or]

theorem findFrom_skip (h : Leads c passed d)
    (idle : ∀ u e, Leads c u e → u.length < passed.length → p.matchAt e = none) :
    p.findFrom c = p.findFrom d := by
  induction passed generalizing c with
  | nil => rw [h.unique (.refl c)]
  | cons x passed ih =>
    obtain ⟨c', first, later⟩ := h.exists_step
    have here : p.matchAt c = none := idle [] c (.refl c) (by simp)
    rw [findFrom_step first, here, Option.none_or]
    refine ih later fun u e hu short => idle (x :: u) e (first.trans hu) ?_
    simpa using short

theorem exists_leads_of_findFrom (h : p.findFrom c = some m) :
    ∃ passed, Leads c passed m.span.start ∧ p.matchAt m.span.start = some m ∧
      ∀ u e, Leads c u e → u.length < passed.length → p.matchAt e = none := by
  obtain ⟨n, before, rest⟩ := c
  have here {c : Cursor} (found : p.matchAt c = some m) :
      ∃ passed, Leads c passed m.span.start ∧ p.matchAt m.span.start = some m ∧
        ∀ u e, Leads c u e → u.length < passed.length → p.matchAt e = none := by
    rw [start_of_matchAt found]
    exact ⟨[], .refl c, found, fun u e _ short => absurd short (Nat.not_lt_zero _)⟩
  induction rest generalizing n before with
  | nil => exact here h
  | cons x rest ih =>
    rw [findFrom_step (.step : Leads ⟨n, before, x :: rest⟩ [x] _)] at h
    obtain found | ⟨empty, later⟩ := Option.or_eq_some_iff.mp h
    · exact here found
    · obtain ⟨passed, leads, found, idle⟩ := ih _ _ later
      refine ⟨x :: passed, Leads.step.trans leads, found, fun u e hu short => ?_⟩
      cases u with
      | nil => exact hu.unique (.refl _) ▸ empty
      | cons y u =>
        obtain ⟨gap, split, later⟩ := Leads.step.between hu (by simp)
        obtain ⟨-, rfl⟩ : y = x ∧ u = gap := by simpa using split
        exact idle u e later (by simpa using short)

theorem takes_of_findFrom (h : p.findFrom c = some m) :
    Takes p m.span.start [] m.span.stop m.captures := by
  obtain ⟨-, -, found, -⟩ := exists_leads_of_findFrom h
  exact takes_of_matchAt found

theorem matchAt_of_findFrom_eq_none (h : p.findFrom c = none) (hd : Leads c passed d) :
    p.matchAt d = none := by
  induction passed generalizing c with
  | nil =>
    obtain rfl := hd.unique (.refl c)
    obtain ⟨n, before, rest⟩ := d
    cases rest with
    | nil => exact h
    | cons x rest =>
      rw [findFrom_step (.step : Leads ⟨n, before, x :: rest⟩ [x] _)] at h
      exact (Option.or_eq_none_iff.mp h).1
  | cons x passed ih =>
    obtain ⟨c', first, later⟩ := hd.exists_step
    rw [findFrom_step first] at h
    exact ih (Option.or_eq_none_iff.mp h).2 later

theorem exists_leads_of_mem_findAllFrom {n : Nat} {touching : Bool}
    (h : m ∈ p.findAllFrom n touching c) :
    ∃ passed, Leads c passed m.span.start ∧ p.matchAt m.span.start = some m := by
  induction n generalizing touching c with
  | zero => cases h
  | succ n ih =>
    simp only [findAllFrom] at h
    split at h
    · cases h
    · rename_i m' found
      obtain ⟨before, reaches, here, -⟩ := exists_leads_of_findFrom found
      split at h
      · split at h
        · cases h
        · rename_i d next
          obtain ⟨x, one⟩ := Leads.next next
          obtain ⟨passed, later, there⟩ := ih h
          exact ⟨_, one.trans later, there⟩
      · obtain rfl | later := List.mem_cons.mp h
        · exact ⟨before, reaches, here⟩
        · obtain ⟨taken, through⟩ := (takes_of_matchAt here).exists_leads
          obtain ⟨passed, later, there⟩ := ih later
          exact ⟨_, (reaches.trans through).trans later, there⟩

theorem takes_of_mem_findAllFrom {n : Nat} {touching : Bool} (h : m ∈ p.findAllFrom n touching c) :
    Takes p m.span.start [] m.span.stop m.captures := by
  obtain ⟨-, -, found⟩ := exists_leads_of_mem_findAllFrom h
  exact takes_of_matchAt found

section Literal

variable {α : Type} {k : Follow α} {caps : Captures}

theorem run_all_cons (p : Pattern) (ps : List Pattern) :
    run (all (p :: ps)) k = run p (run (all ps) k) := by
  cases ps with
  | nil => rfl
  | cons q ps => rfl

theorem run_capture (group : Nat) (p : Pattern) :
    run (.capture group p) k c caps =
      run p (fun d caps => k d ((group, ⟨c, d⟩) :: caps)) c caps := rfl

theorem run_anchor_eq_some {a : Anchor} {r : α} :
    run (.anchor a) k c caps = some r ↔
      a.holds c.before c.rest.head? = true ∧ k c caps = some r := by
  rw [run]
  split
  · rename_i holds
    simp [holds]
  · rename_i refused
    simp [refused]

theorem run_set_eq_some {s : CharSet} {r : α} :
    run (set s) k c caps = some r ↔
      ∃ x d, s.mem x = true ∧ Leads c [x] d ∧ k d caps = some r := by
  obtain ⟨n, before, rest⟩ := c
  cases rest with
  | nil =>
    refine ⟨fun h => (by cases h), fun ⟨x, d, _, h, _⟩ => ?_⟩
    cases h.rest
  | cons y rest =>
    constructor
    · intro h
      simp only [run] at h
      split at h
      · rename_i mem
        exact ⟨y, _, mem, .step, h⟩
      · cases h
    · rintro ⟨x, d, mem, leads, done⟩
      obtain ⟨rfl, -⟩ := List.cons.inj leads.rest
      simp only [run, mem, if_true]
      rw [← leads.unique .step]
      exact done

theorem run_char_eq_some {x : Char} {r : α} :
    run (char x) k c caps = some r ↔ ∃ d, Leads c [x] d ∧ k d caps = some r := by
  rw [char, run_set_eq_some]
  simp

theorem run_chars_eq_some {cs : List Char} {r : α} :
    run (all (cs.map char)) k c caps = some r ↔ ∃ d, Leads c cs d ∧ k d caps = some r := by
  induction cs generalizing c with
  | nil =>
    refine ⟨fun h => ⟨c, .refl c, h⟩, fun ⟨d, h, done⟩ => ?_⟩
    rw [h.unique (.refl c)] at done
    exact done
  | cons x cs ih =>
    rw [List.map_cons, run_all_cons, run_char_eq_some]
    constructor
    · rintro ⟨c', first, h⟩
      obtain ⟨d, rest, done⟩ := ih.mp h
      exact ⟨d, first.trans rest, done⟩
    · rintro ⟨d, leads, done⟩
      obtain ⟨c', first, later⟩ := leads.exists_step
      exact ⟨c', first, ih.mpr ⟨d, later, done⟩⟩

theorem matchAt_lit_eq_some {t : String} :
    (Pattern.lit t).matchAt c = some m ↔ Leads c t.toList m.span.stop ∧ m.span.start = c ∧
      m.captures = [] := by
  rw [matchAt, lit, run_chars_eq_some]
  constructor
  · rintro ⟨d, leads, done⟩
    cases done
    exact ⟨leads, rfl, rfl⟩
  · obtain ⟨⟨start, stop⟩, captures⟩ := m
    rintro ⟨leads, rfl, rfl⟩
    exact ⟨stop, leads, rfl⟩

theorem isSome_matchAt_lit {t : String} (h : t.toList <+: c.rest) :
    ((Pattern.lit t).matchAt c).isSome = true := by
  obtain ⟨rest, split⟩ := h
  obtain ⟨d, leads, -⟩ := Leads.exists_of_rest split.symm
  exact Option.isSome_iff_exists.mpr ⟨⟨⟨c, d⟩, []⟩, matchAt_lit_eq_some.mpr ⟨leads, rfl, rfl⟩⟩

theorem exists_findFrom_lit {t : String} (h : Leads c passed d) (occurs : t.toList <+: d.rest) :
    ∃ m u, (Pattern.lit t).findFrom c = some m ∧ Leads c u m.span.start ∧
      Leads m.span.start t.toList m.span.stop ∧
      ∀ v e, Leads c v e → t.toList <+: e.rest → u.length ≤ v.length := by
  cases found : (Pattern.lit t).findFrom c with
  | none =>
    have empty := matchAt_of_findFrom_eq_none found h
    simpa [empty] using isSome_matchAt_lit occurs
  | some m =>
    obtain ⟨u, leads, here, idle⟩ := exists_leads_of_findFrom found
    refine ⟨m, u, rfl, leads, (matchAt_lit_eq_some.mp here).1, fun v e hv occurs =>
      Nat.le_of_not_lt fun short => ?_⟩
    have nothing := idle v e hv short
    simpa [nothing] using isSome_matchAt_lit occurs

end Literal

end GuidelineCompliance.Pattern
