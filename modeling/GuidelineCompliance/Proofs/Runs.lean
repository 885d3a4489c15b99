import GuidelineCompliance.Proofs.Search
import Mathlib.Data.List.TakeWhile

/-! Runs of patterns along a known stretch of text. A greedy repetition of a set goes to the end of
the characters of the set, if what follows succeeds there. A lazy one stops at the first place
where what follows succeeds. -/

namespace GuidelineCompliance.Pattern

variable {α : Type} {k : Follow α} {s : CharSet} {c d : Cursor} {caps : Captures} {r : α}

theorem forall_mem_noneOf {cs : List Char} {x : Char} :
    (∀ y ∈ cs, (CharSet.noneOf [x]).mem y = true) ↔ x ∉ cs := by
  simp [List.forall_mem_ne']

theorem exists_longest (s : CharSet) (c : Cursor) :
    ∃ cs d, Leads c cs d ∧ (∀ x ∈ cs, s.mem x = true) ∧ ∀ x ∈ d.rest.head?, s.mem x = false := by
  obtain ⟨d, leads, rest⟩ :=
    Leads.exists_of_rest (List.takeWhile_append_dropWhile (p := s.mem)).symm
  refine ⟨_, d, leads, fun x => List.mem_takeWhile_imp, fun x hx => ?_⟩
  have stopped := List.head?_dropWhile_not s.mem c.rest
  rw [← rest, hx] at stopped
  simpa using stopped

theorem stop_of_head? {x : Char} {cs : List Char} (first : cs.head? = some x)
    (other : s.mem x = false) : ∀ y ∈ cs.head?, s.mem y = false := fun y hy => by
  obtain rfl : x = y := by simpa [first] using hy
  exact other

theorem stop_of_head {x : Char} {cs rest : List Char} (first : cs.head? = some x)
    (other : s.mem x = false) : ∀ y ∈ (cs ++ rest).head?, s.mem y = false :=
  stop_of_head? (by simp [first]) other

theorem stop_of_leads {x : Char} {cs : List Char} (h : Leads c cs d) (first : cs.head? = some x)
    (other : s.mem x = false) : ∀ y ∈ c.rest.head?, s.mem y = false := by
  rw [h.rest]
  exact stop_of_head first other

theorem longest_unique {as bs rest rest' : List Char} (left : ∀ x ∈ as, s.mem x = true)
    (right : ∀ x ∈ bs, s.mem x = true) (stop : ∀ x ∈ rest.head?, s.mem x = false)
    (stop' : ∀ x ∈ rest'.head?, s.mem x = false) (h : as ++ rest = bs ++ rest') : as = bs := by
  have empty {rest : List Char} (stop : ∀ x ∈ rest.head?, s.mem x = false) :
      rest.takeWhile s.mem = [] := by
    cases rest with
    | nil => rfl
    | cons x rest => exact List.takeWhile_cons_of_neg (by simp [stop x rfl])
  have taken := congrArg (List.takeWhile s.mem) h
  rw [List.takeWhile_append_of_pos left, List.takeWhile_append_of_pos right, empty stop,
    empty stop', List.append_nil, List.append_nil] at taken
  exact taken

theorem run_all_append (ps qs : List Pattern) :
    run (all (ps ++ qs)) k = run (all ps) (run (all qs) k) := by
  induction ps with
  | nil => rfl
  | cons p ps ih => rw [List.cons_append, run_all_cons, run_all_cons, ih]

theorem or_else_eq_or (first second : Option α) :
    (match first with | some r => some r | none => second) = first.or second := by
  cases first <;> rfl

theorem run_alt (p q : Pattern) :
    run (.alt p q) k c caps = (run p k c caps).or (run q k c caps) := by
  rw [run]
  exact or_else_eq_or _ _

theorem run_opt (p : Pattern) : run (opt true p) k c caps = (run p k c caps).or (k c caps) := by
  rw [opt, if_pos rfl, run]
  exact or_else_eq_or _ _

theorem run_lazy_opt (p : Pattern) :
    run (opt false p) k c caps = (k c caps).or (run p k c caps) := by
  rw [opt, if_neg Bool.false_ne_true, run]
  exact or_else_eq_or _ _

theorem run_set_of_leads {x : Char} (h : Leads c [x] d) :
    run (set s) k c caps = if s.mem x then k d caps else none := by
  obtain ⟨n, before, rest⟩ := c
  obtain ⟨rest', rfl⟩ : ∃ rest', rest = x :: rest' := ⟨d.rest, h.rest⟩
  rw [h.unique .step]
  rfl

theorem run_set_of_rest_eq_nil (h : c.rest = []) : run (set s) k c caps = none := by
  rw [run, h]

/-- The rounds that are left after one round are those of a repetition of its own. -/
theorem rounds_eq_run_star (greedy : Bool) :
    rounds (run (set s)) greedy k c.rest.length c caps = run (star greedy (set s)) k c caps := by
  obtain ⟨n, before, rest⟩ := c
  cases rest with
  | nil =>
    cases greedy with
    | true => rfl
    | false =>
      rw [star, run_lazy_opt]
      exact (Option.or_none).symm
  | cons x rest =>
    have one : Leads ⟨n, before, x :: rest⟩ [x] ⟨n + x.utf8Size, some x, rest⟩ := .step
    have moves : n + x.utf8Size ≠ n := by
      have := x.utf8Size_pos
      omega
    have again : run (plus greedy (set s)) k ⟨n, before, x :: rest⟩ caps = run (set s)
        (fun d caps =>
          if d.offset = n then none else rounds (run (set s)) greedy k rest.length d caps)
        ⟨n, before, x :: rest⟩ caps := by
      have unfolded : run (plus greedy (set s)) k ⟨n, before, x :: rest⟩ caps = run (set s)
          (fun d caps =>
            if d.offset = n then k d caps else rounds (run (set s)) greedy k d.rest.length d caps)
          ⟨n, before, x :: rest⟩ caps := rfl
      rw [unfolded, run_set_of_leads one, run_set_of_leads one, if_neg moves, if_neg moves]
    rw [List.length_cons, rounds, star]
    cases greedy with
    | true =>
      rw [run_opt, again, if_pos rfl]
      exact or_else_eq_or _ _
    | false =>
      rw [run_lazy_opt, again, if_neg Bool.false_ne_true]
      exact or_else_eq_or _ _

theorem run_plus_of_leads {x : Char} (h : Leads c [x] d) (greedy : Bool) :
    run (plus greedy (set s)) k c caps =
      if s.mem x then run (star greedy (set s)) k d caps else none := by
  have moves : d.offset ≠ c.offset := by
    have size : 0 < octets [x] := octets_pos (List.cons_ne_nil x [])
    have offset := h.offset
    omega
  rw [run, run_set_of_leads h, if_neg moves, rounds_eq_run_star]

theorem run_plus_of_rest_eq_nil (h : c.rest = []) (greedy : Bool) :
    run (plus greedy (set s)) k c caps = none := by
  rw [run, run_set_of_rest_eq_nil h]

theorem run_plus_eq (greedy : Bool) :
    run (plus greedy (set s)) k c caps = run (set s) (run (star greedy (set s)) k) c caps := by
  cases hrest : c.rest with
  | nil => rw [run_plus_of_rest_eq_nil hrest, run_set_of_rest_eq_nil hrest]
  | cons x rest =>
    obtain ⟨d, one, -⟩ := Leads.exists_of_rest (show c.rest = [x] ++ rest from hrest)
    rw [run_plus_of_leads one, run_set_of_leads one]

theorem run_star (greedy : Bool) (p : Pattern) : run (star greedy p) k c caps =
    if greedy then (run (plus greedy p) k c caps).or (k c caps)
    else (k c caps).or (run (plus greedy p) k c caps) := by
  cases greedy with
  | true => exact run_opt _
  | false => exact run_lazy_opt _

theorem exists_leads_of_run_many (h : run (many s) k c caps = some r) :
    ∃ cs d, Leads c cs d ∧ (∀ x ∈ cs, s.mem x = true) ∧ k d caps = some r := by
  generalize hrest : c.rest = rest at *
  induction rest generalizing c with
  | nil =>
    rw [many, star, run_opt, run_plus_of_rest_eq_nil hrest, Option.none_or] at h
    exact ⟨[], c, .refl c, by simp, h⟩
  | cons x rest ih =>
    obtain ⟨e, one, he⟩ := Leads.exists_of_rest (show c.rest = [x] ++ rest from hrest)
    rw [many, star, run_opt, run_plus_of_leads one] at h
    obtain more | ⟨-, done⟩ := Option.or_eq_some_iff.mp h
    · split at more
      · rename_i mem
        obtain ⟨cs, d, leads, taken, done⟩ := ih more he
        refine ⟨x :: cs, d, one.trans leads, ?_, done⟩
        simpa [mem] using taken
      · cases more
    · exact ⟨[], c, .refl c, by simp, done⟩

/-- A greedy repetition ends at the last place, of those that it reaches, where what follows
succeeds. -/
theorem run_many_of_last {cs : List Char} (h : Leads c cs d) (taken : ∀ x ∈ cs, s.mem x = true)
    (last : ∀ more e, Leads d more e → more ≠ [] → (∀ x ∈ more, s.mem x = true) → k e caps = none)
    (done : k d caps = some r) : run (many s) k c caps = some r := by
  induction cs generalizing c with
  | nil =>
    obtain rfl := h.unique (.refl c)
    have ended : run (plus true (set s)) k d caps = none := by
      cases hd : d.rest with
      | nil => exact run_plus_of_rest_eq_nil hd true
      | cons x rest =>
        obtain ⟨e, one, -⟩ := Leads.exists_of_rest (show d.rest = [x] ++ rest from hd)
        rw [run_plus_of_leads one]
        split
        · rename_i mem
          rw [Option.eq_none_iff_forall_ne_some]
          intro r' more
          obtain ⟨cs, f, leads, taken, found⟩ := exists_leads_of_run_many more
          have empty := last (x :: cs) f (one.trans leads) (List.cons_ne_nil x cs)
            (List.forall_mem_cons.mpr ⟨mem, taken⟩)
          rw [empty] at found
          cases found
        · rfl
    rw [many, star, run_opt, ended, Option.none_or, done]
  | cons x cs ih =>
    obtain ⟨e, one, later⟩ := h.exists_step
    have rest := ih later fun y hy => taken y (List.mem_cons_of_mem x hy)
    rw [many, star, run_opt, run_plus_of_leads one, if_pos (taken x List.mem_cons_self)]
    rw [many] at rest
    rw [rest, Option.some_or]

theorem run_many_of_leads {cs : List Char} (h : Leads c cs d) (taken : ∀ x ∈ cs, s.mem x = true)
    (stop : ∀ x ∈ d.rest.head?, s.mem x = false) (done : k d caps = some r) :
    run (many s) k c caps = some r := by
  refine run_many_of_last h taken (fun more e leads nonempty within => ?_) done
  obtain ⟨x, more, rfl⟩ := List.exists_cons_of_ne_nil nonempty
  have refused : s.mem x = false := stop x (by simp [leads.rest])
  rw [within x List.mem_cons_self] at refused
  cases refused

theorem isSome_run_many {cs : List Char} (h : Leads c cs d) (taken : ∀ x ∈ cs, s.mem x = true)
    (done : (k d caps).isSome = true) : (run (many s) k c caps).isSome = true := by
  induction cs generalizing c with
  | nil =>
    obtain rfl := h.unique (.refl c)
    rw [many, star, run_opt, Option.isSome_or, done, Bool.or_true]
  | cons x cs ih =>
    obtain ⟨e, one, later⟩ := h.exists_step
    have rest := ih later fun y hy => taken y (List.mem_cons_of_mem x hy)
    rw [many] at rest
    rw [many, star, run_opt, run_plus_of_leads one, if_pos (taken x List.mem_cons_self),
      Option.isSome_or, rest, Bool.true_or]

theorem eq_some_of_run_many {cs : List Char} (h : Leads c cs d) (taken : ∀ x ∈ cs, s.mem x = true)
    (stop : ∀ x ∈ d.rest.head?, s.mem x = false) (done : (k d caps).isSome = true)
    (found : run (many s) k c caps = some r) : k d caps = some r := by
  obtain ⟨r', done⟩ := Option.isSome_iff_exists.mp done
  rw [← found, run_many_of_leads h taken stop done, done]

theorem run_few_of_leads {cs : List Char} (h : Leads c cs d) (taken : ∀ x ∈ cs, s.mem x = true)
    (early : ∀ u e, Leads c u e → u.length < cs.length → k e caps = none)
    (done : k d caps = some r) : run (few s) k c caps = some r := by
  induction cs generalizing c with
  | nil =>
    obtain rfl := h.unique (.refl c)
    rw [few, star, run_lazy_opt, done, Option.some_or]
  | cons x cs ih =>
    obtain ⟨e, one, later⟩ := h.exists_step
    have here : k c caps = none := early [] c (.refl c) (by simp)
    have rest := ih later (fun y hy => taken y (List.mem_cons_of_mem x hy))
      fun u f hu short => early (x :: u) f (one.trans hu) (by simpa using short)
    rw [few, star, run_lazy_opt, here, Option.none_or, run_plus_of_leads one,
      if_pos (taken x List.mem_cons_self)]
    rw [few] at rest
    exact rest

theorem run_char_eq_none {x : Char} (h : ∀ y ∈ c.rest.head?, y ≠ x) :
    run (char x) k c caps = none := by
  rw [Option.eq_none_iff_forall_ne_some]
  intro r done
  obtain ⟨d, leads, -⟩ := run_char_eq_some.mp done
  exact h x (by simp [leads.rest]) rfl

theorem run_opening_eq_some {opening : List Char} {ps : List Pattern} :
    run (all ([.anchor .wordEdge] ++ opening.map char ++ ps)) k c caps = some r ↔
      Anchor.wordEdge.holds c.before c.rest.head? = true ∧
        ∃ d, Leads c opening d ∧ run (all ps) k d caps = some r := by
  rw [run_all_append, run_all_append, all, run_anchor_eq_some, run_chars_eq_some]

theorem prefix_of_matchAt_opening {p : Pattern} {opening : List Char} {ps : List Pattern}
    {m : Match} (shape : p = all ([.anchor .wordEdge] ++ opening.map char ++ ps))
    (h : p.matchAt c = some m) : opening <+: c.rest := by
  rw [shape, matchAt] at h
  obtain ⟨-, d, leads, -⟩ := run_opening_eq_some.mp h
  exact ⟨d.rest, leads.rest.symm⟩

end GuidelineCompliance.Pattern
