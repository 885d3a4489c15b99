import GuidelineCompliance.Proofs.Runs

/-! Runs of patterns that choose one of several words, of which none is the beginning of another. At
a place where one of the words stands, that one is taken. -/

namespace GuidelineCompliance.Pattern

variable {α : Type} {k : Follow α} {s : CharSet} {c d : Cursor} {caps : Captures} {r : α}

def anyOf (words : List String) : Pattern := any (words.map lit)

theorem run_lit_eq_some {word : String} :
    run (lit word) k c caps = some r ↔ ∃ d, Leads c word.toList d ∧ k d caps = some r :=
  run_chars_eq_some

theorem run_any_cons (p : Pattern) (ps : List Pattern) :
    run (any (p :: ps)) k c caps = (run p k c caps).or (run (any ps) k c caps) := by
  cases ps with
  | nil =>
    have nothing : run (any []) k c caps = none := by
      obtain ⟨n, before, rest⟩ := c
      cases rest <;> rfl
    rw [nothing, Option.or_none]
    rfl
  | cons q ps => exact run_alt _ _

theorem run_any_of_mem {ps : List Pattern} {p : Pattern} (mem : p ∈ ps)
    (others : ∀ q ∈ ps, q = p ∨ run q k c caps = none) (done : run p k c caps = some r) :
    run (any ps) k c caps = some r := by
  induction ps with
  | nil => cases mem
  | cons q ps ih =>
    rw [run_any_cons]
    obtain rfl | fails := others q List.mem_cons_self
    · rw [done, Option.some_or]
    · have later : p ∈ ps := (List.mem_cons.mp mem).resolve_left fun same => by
        rw [← same, done] at fails
        cases fails
      rw [fails, Option.none_or]
      exact ih later fun q' hq' => others q' (List.mem_cons_of_mem q hq')

theorem run_anyOf_cons (word : String) (words : List String) :
    run (anyOf (word :: words)) k c caps =
      (run (lit word) k c caps).or (run (anyOf words) k c caps) :=
  run_any_cons _ _

theorem exists_leads_of_run_anyOf {words : List String}
    (h : run (anyOf words) k c caps = some r) :
    ∃ word ∈ words, ∃ d, Leads c word.toList d ∧ k d caps = some r := by
  induction words with
  | nil =>
    obtain ⟨n, before, rest⟩ := c
    cases rest <;> cases h
  | cons word words ih =>
    rw [run_anyOf_cons] at h
    obtain first | ⟨-, later⟩ := Option.or_eq_some_iff.mp h
    · exact ⟨word, List.mem_cons_self, run_lit_eq_some.mp first⟩
    · obtain ⟨word', mem, found⟩ := ih later
      exact ⟨word', List.mem_cons_of_mem _ mem, found⟩

theorem not_prefix_of_head?_ne {word cs : List Char} {x : Char} (h : word.head? = some x)
    (other : ∀ y ∈ cs.head?, y ≠ x) : ¬ word <+: cs := by
  rintro ⟨rest, rfl⟩
  exact other x (by simp [List.head?_append, h]) rfl

theorem run_lit_eq_none {word : String} {x : Char} (first : word.toList.head? = some x)
    (other : ∀ y ∈ c.rest.head?, y ≠ x) : run (lit word) k c caps = none := by
  rw [Option.eq_none_iff_forall_ne_some]
  intro r found
  obtain ⟨d, leads, -⟩ := run_lit_eq_some.mp found
  exact not_prefix_of_head?_ne first other ⟨d.rest, leads.rest.symm⟩

theorem run_anyOf_eq_none {words : List String} (absent : ∀ w ∈ words, ¬ w.toList <+: c.rest) :
    run (anyOf words) k c caps = none := by
  rw [Option.eq_none_iff_forall_ne_some]
  intro r found
  obtain ⟨word, mem, d, leads, -⟩ := exists_leads_of_run_anyOf found
  exact absent word mem ⟨d.rest, leads.rest.symm⟩

def Apart (words : List String) : Prop :=
  ∀ v ∈ words, ∀ w ∈ words, v.toList <+: w.toList → v = w

instance (words : List String) : Decidable (Apart words) :=
  inferInstanceAs (Decidable (∀ v ∈ words, ∀ w ∈ words, v.toList <+: w.toList → v = w))

theorem Apart.eq_of_prefix {words : List String} (apart : Apart words) {v w : String}
    {cs : List Char} (hv : v ∈ words) (hw : w ∈ words) (first : v.toList <+: cs)
    (second : w.toList <+: cs) : v = w := by
  obtain le | le := Nat.le_total v.toList.length w.toList.length
  · exact apart v hv w hw (List.prefix_of_prefix_length_le first second le)
  · exact (apart w hw v hv (List.prefix_of_prefix_length_le second first le)).symm

theorem run_lit_eq_none_of_run_anyOf {words : List String} (h : run (anyOf words) k c caps = none) :
    ∀ word ∈ words, run (lit word) k c caps = none := by
  induction words with
  | nil => exact fun _ mem => absurd mem List.not_mem_nil
  | cons first words ih =>
    rw [run_anyOf_cons, Option.or_eq_none_iff] at h
    exact List.forall_mem_cons.mpr ⟨h.1, ih h.2⟩

theorem run_anyOf_of_leads {words : List String} (apart : Apart words) {word : String}
    (mem : word ∈ words) (h : Leads c word.toList d) (done : k d caps = some r) :
    run (anyOf words) k c caps = some r := by
  have here : word.toList <+: c.rest := ⟨d.rest, h.rest.symm⟩
  have taken : run (lit word) k c caps = some r := run_lit_eq_some.mpr ⟨d, h, done⟩
  cases found : run (anyOf words) k c caps with
  | none => rw [run_lit_eq_none_of_run_anyOf found word mem] at taken; cases taken
  | some r' =>
    obtain ⟨word', mem', d', leads, done'⟩ := exists_leads_of_run_anyOf found
    obtain rfl := apart.eq_of_prefix mem' mem ⟨d'.rest, leads.rest.symm⟩ here
    obtain rfl := leads.unique h
    rw [← done, done']

def anyOf? (words : List String) : Pattern := opt true (anyOf words)

theorem run_anyOf?_of_leads {words : List String} (apart : Apart words) {word : String}
    (mem : word ∈ words) (h : Leads c word.toList d) (done : k d caps = some r) :
    run (anyOf? words) k c caps = some r := by
  rw [anyOf?, run_opt, run_anyOf_of_leads apart mem h done, Option.some_or]

theorem run_anyOf?_of_absent {words : List String} (absent : ∀ w ∈ words, ¬ w.toList <+: c.rest) :
    run (anyOf? words) k c caps = k c caps := by
  rw [anyOf?, run_opt, run_anyOf_eq_none absent, Option.none_or]

theorem exists_leads_of_run_anyOf? {words : List String}
    (h : run (anyOf? words) k c caps = some r) :
    ∃ word ∈ "" :: words, ∃ d, Leads c word.toList d ∧ k d caps = some r := by
  rw [anyOf?, run_opt] at h
  obtain first | ⟨-, later⟩ := Option.or_eq_some_iff.mp h
  · obtain ⟨word, mem, found⟩ := exists_leads_of_run_anyOf first
    exact ⟨word, List.mem_cons_of_mem _ mem, found⟩
  · exact ⟨"", List.mem_cons_self, c, .refl c, later⟩

theorem run_many1_of_leads {cs : List Char} (nonempty : cs ≠ []) (h : Leads c cs d)
    (taken : ∀ x ∈ cs, s.mem x = true) (stop : ∀ x ∈ d.rest.head?, s.mem x = false)
    (done : k d caps = some r) : run (many1 s) k c caps = some r := by
  obtain ⟨x, cs, rfl⟩ := List.exists_cons_of_ne_nil nonempty
  obtain ⟨e, one, later⟩ := h.exists_step
  rw [many1, run_plus_of_leads one, if_pos (taken x List.mem_cons_self)]
  exact run_many_of_leads later (fun y hy => taken y (List.mem_cons_of_mem x hy)) stop done

theorem exists_leads_of_run_many1 (h : run (many1 s) k c caps = some r) :
    ∃ cs d, cs ≠ [] ∧ Leads c cs d ∧ (∀ x ∈ cs, s.mem x = true) ∧ k d caps = some r := by
  cases hrest : c.rest with
  | nil =>
    rw [many1, run_plus_of_rest_eq_nil hrest] at h
    cases h
  | cons x rest =>
    obtain ⟨e, one, -⟩ := Leads.exists_of_rest (show c.rest = [x] ++ rest from hrest)
    rw [many1, run_plus_of_leads one] at h
    split at h
    · rename_i mem
      obtain ⟨cs, d, leads, taken, done⟩ := exists_leads_of_run_many h
      exact ⟨x :: cs, d, List.cons_ne_nil x cs, one.trans leads,
        List.forall_mem_cons.mpr ⟨mem, taken⟩, done⟩
    · cases h

theorem exists_head_of_run_many1 (h : run (many1 s) k c caps = some r) :
    ∃ x ∈ c.rest.head?, s.mem x = true := by
  obtain ⟨cs, d, nonempty, leads, taken, -⟩ := exists_leads_of_run_many1 h
  obtain ⟨x, cs, rfl⟩ := List.exists_cons_of_ne_nil nonempty
  exact ⟨x, by simp [leads.rest], taken x List.mem_cons_self⟩

theorem run_many1_eq_none (stop : ∀ x ∈ c.rest.head?, s.mem x = false) :
    run (many1 s) k c caps = none := by
  rw [Option.eq_none_iff_forall_ne_some]
  intro r found
  obtain ⟨x, head, mem⟩ := exists_head_of_run_many1 found
  rw [stop x head] at mem
  cases mem

theorem exists_leads_of_run_few (h : run (few s) k c caps = some r) :
    ∃ cs d, Leads c cs d ∧ (∀ x ∈ cs, s.mem x = true) ∧ k d caps = some r := by
  generalize hrest : c.rest = rest at *
  induction rest generalizing c with
  | nil =>
    rw [few, star, run_lazy_opt, run_plus_of_rest_eq_nil hrest, Option.or_none] at h
    exact ⟨[], c, .refl c, by simp, h⟩
  | cons x rest ih =>
    obtain ⟨e, one, he⟩ := Leads.exists_of_rest (show c.rest = [x] ++ rest from hrest)
    rw [few, star, run_lazy_opt, run_plus_of_leads one] at h
    obtain done | ⟨-, more⟩ := Option.or_eq_some_iff.mp h
    · exact ⟨[], c, .refl c, by simp, done⟩
    · split at more
      · rename_i mem
        obtain ⟨cs, d, leads, taken, done⟩ := ih more he
        refine ⟨x :: cs, d, one.trans leads, ?_, done⟩
        simpa [mem] using taken
      · cases more

theorem isSome_run_few {cs : List Char} (h : Leads c cs d) (taken : ∀ x ∈ cs, s.mem x = true)
    (done : (k d caps).isSome = true) : (run (few s) k c caps).isSome = true := by
  induction cs generalizing c with
  | nil =>
    obtain rfl := h.unique (.refl c)
    rw [few, star, run_lazy_opt, Option.isSome_or, done, Bool.true_or]
  | cons x cs ih =>
    obtain ⟨e, one, later⟩ := h.exists_step
    have rest := ih later fun y hy => taken y (List.mem_cons_of_mem x hy)
    rw [few] at rest
    rw [few, star, run_lazy_opt, run_plus_of_leads one, if_pos (taken x List.mem_cons_self),
      Option.isSome_or, rest, Bool.or_true]

/-- A greedy repetition is as good as its longest stretch, if nothing succeeds behind a shorter one
that fails behind that. -/
theorem run_many1_eq_of_longest {cs : List Char} (nonempty : cs ≠ []) (h : Leads c cs d)
    (taken : ∀ x ∈ cs, s.mem x = true) (stop : ∀ x ∈ d.rest.head?, s.mem x = false)
    (fails : ∀ u e, Leads e u d → (∀ x ∈ u, s.mem x = true) → k d caps = none → k e caps = none) :
    run (many1 s) k c caps = k d caps := by
  cases done : k d caps with
  | some r => exact run_many1_of_leads nonempty h taken stop done
  | none =>
    rw [Option.eq_none_iff_forall_ne_some]
    intro r found
    obtain ⟨cs', e, -, leads, taken', done'⟩ := exists_leads_of_run_many1 found
    obtain short | long := Nat.le_total cs'.length cs.length
    · obtain ⟨gap, rfl, later⟩ := leads.between h short
      rw [fails gap e later (fun x hx => taken x (List.mem_append_right cs' hx)) done] at done'
      cases done'
    · obtain ⟨gap, rfl, later⟩ := h.between leads long
      cases gap with
      | nil =>
        rw [later.unique (.refl d), done] at done'
        cases done'
      | cons x gap =>
        have refused : s.mem x = false := stop x (by simp [later.rest])
        rw [taken' x (by simp)] at refused
        cases refused

end GuidelineCompliance.Pattern
