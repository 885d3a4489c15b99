import GuidelineCompliance.Proofs.Frames

/-! The matches of a pattern on the lines of a text. A pattern without anchors that takes no line
feed finds in two lines what it finds in the first one and then what it finds in the second one. -/

namespace GuidelineCompliance.Pattern

inductive Finds (p : Pattern) : Cursor → List Match → Prop where
  | nil {c : Cursor} (nothing : p.findFrom c = none) : Finds p c []
  | cons {c : Cursor} {m : Match} {ms : List Match} (found : p.findFrom c = some m)
    (rest : Finds p m.span.stop ms) : Finds p c (m :: ms)

variable {p : Pattern} {f : Frame} {c d e : Cursor} {passed : List Char} {ms ms' : List Match}

namespace Finds

theorem unique (h : Finds p c ms) (h' : Finds p c ms') : ms = ms' := by
  induction h generalizing ms' with
  | nil nothing =>
    cases h' with
    | nil => rfl
    | cons found =>
      rw [nothing] at found
      cases found
  | cons found _ ih =>
    cases h' with
    | nil nothing =>
      rw [nothing] at found
      cases found
    | cons found' rest' =>
      rw [found] at found'
      cases found'
      rw [ih rest']

theorem of_findFrom_eq (h : Finds p d ms) (same : p.findFrom c = p.findFrom d) : Finds p c ms := by
  cases h with
  | nil nothing => exact .nil (same.trans nothing)
  | cons found rest => exact .cons (same.trans found) rest

theorem takes_of_mem (h : Finds p c ms) {m : Match} (hm : m ∈ ms) :
    Takes p m.span.start [] m.span.stop m.captures := by
  induction h with
  | nil => cases hm
  | cons found _ ih =>
    obtain rfl | later := List.mem_cons.mp hm
    · exact takes_of_findFrom found
    · exact ih later

theorem within_append (fits : p.Fits f) (h : Finds p c ms) (hc : Leads c passed e)
    (ended : e.rest = []) (later : Finds p (e.within f) ms') :
    Finds p (c.within f) (ms.map (·.within f) ++ ms') := by
  induction h generalizing passed with
  | @nil c nothing =>
    refine later.of_findFrom_eq ?_
    rw [findFrom_within fits hc ended, nothing, Option.map_none, Option.none_or]
  | @cons c m ms found rest ih =>
    obtain ⟨before, reaches, here, -⟩ := exists_leads_of_findFrom found
    obtain ⟨taken, through⟩ := (takes_of_matchAt here).exists_leads
    have whole := reaches.trans through
    have le : (before ++ taken).length ≤ passed.length := by
      have rests := congrArg List.length (whole.rest.symm.trans hc.rest)
      rw [ended, List.append_nil, List.length_append] at rests
      omega
    obtain ⟨gap, -, behind⟩ := whole.between hc le
    have there : p.findFrom (c.within f) = some (m.within f) := by
      rw [findFrom_within fits hc ended, found, Option.map_some, Option.some_or]
    exact .cons there (ih behind)

end Finds

theorem length_rest_stop_lt {m : Match} (text : p.takesText = true) (h : p.matchAt c = some m) :
    m.span.stop.rest.length < c.rest.length := by
  have takes := takes_of_matchAt h
  obtain ⟨taken, through⟩ := takes.exists_leads
  rw [start_of_matchAt h] at takes through
  exact through.length_rest_lt (takes.offset_lt text)

theorem matchAt_of_rest_eq_nil (text : p.takesText = true) (ended : c.rest = []) :
    p.matchAt c = none := by
  rw [Option.eq_none_iff_forall_ne_some]
  intro m found
  simpa [ended] using length_rest_stop_lt text found

theorem finds_findAllFrom (text : p.takesText = true) {n : Nat} (touching : Bool)
    (fuel : c.rest.length < n) : Finds p c (p.findAllFrom n touching c) := by
  induction n generalizing touching c with
  | zero => cases fuel
  | succ n ih =>
    rw [findAllFrom_succ text]
    cases found : p.findFrom c with
    | none => exact .nil found
    | some m =>
      obtain ⟨before, reaches, here, -⟩ := exists_leads_of_findFrom found
      have ahead : m.span.start.rest.length ≤ c.rest.length := by
        rw [reaches.rest, List.length_append]
        omega
      have fewer := length_rest_stop_lt text here
      exact .cons found (ih true (by omega))

theorem finds_findAll (text : p.takesText = true) (s : String) :
    Finds p (.ofText s.toList) (p.findAll s) :=
  finds_findAllFrom text false (by rw [Cursor.rest_ofText]; omega)

theorem lookup_within (caps : Captures) (f : Frame) (group : Nat) :
    (Captures.within caps f).lookup group = (caps.lookup group).map (·.within f) := by
  induction caps with
  | nil => rfl
  | cons taken caps ih =>
    obtain ⟨n, s⟩ := taken
    have head : Captures.within ((n, s) :: caps) f = (n, s.within f) :: Captures.within caps f :=
      rfl
    rw [head, List.lookup_cons, List.lookup_cons, ih]
    cases group == n <;> rfl

theorem group_within {m : Match} (h : Takes p m.span.start [] m.span.stop m.captures) (f : Frame) :
    (m.within f).group = m.group := by
  funext group
  have spans : (m.within f).span? group = (m.span? group).map (·.within f) :=
    lookup_within m.captures f group
  rw [Match.group, Match.group, Match.group?, Match.group?, spans]
  cases hs : m.span? group with
  | none => rfl
  | some s =>
    obtain old | ⟨q, k, k', -, inner⟩ := h.mem_parts (Match.mem_captures_of_span? hs)
    · cases old
    · obtain ⟨taken, leads⟩ := inner.exists_leads
      have outer : (s.within f).text = String.ofList taken := (leads.within f).text
      simp only [Option.map_some, Option.getD_some, outer]
      exact leads.text.symm

theorem Finds.map_group_within (h : Finds p c ms) (f : Frame) :
    (ms.map (·.within f)).map Match.group = ms.map Match.group := by
  rw [List.map_map]
  exact List.map_congr_left fun m hm => group_within (h.takes_of_mem hm) f

section Lines

variable {a b : String}

def Frame.above (b : String) : Frame := ⟨0, none, '\n' :: b.toList⟩

def Frame.below (a : String) : Frame := ⟨octets a.toList + 1, some '\n', []⟩

theorem within_above (a b : String) :
    (Cursor.ofText a.toList).within (.above b) = .ofText (a ++ "\n" ++ b).toList := by
  simp [Cursor.ofText, Cursor.within, Frame.above]

theorem exists_leads_end (s : String) : ∃ e, Leads (.ofText s.toList) s.toList e ∧ e.rest = [] :=
  Leads.exists_of_rest (by rw [Cursor.rest_ofText, List.append_nil])

theorem leads_lineFeed (h : Leads (.ofText a.toList) a.toList e) (ended : e.rest = []) :
    Leads (e.within (.above b)) ['\n'] ((Cursor.ofText b.toList).within (.below a)) where
  rest := by simp [Cursor.within, Cursor.ofText, ended, Frame.above, Frame.below]
  offset := by
    have width : octets ['\n'] = 1 := by decide
    simp [Cursor.within, Cursor.ofText, h.offset, width, Frame.above, Frame.below]
  before := by simp [Cursor.within, Cursor.ofText, Frame.below]

/-- In a text of two lines a pattern that takes no line feed finds what it finds in the first one,
and then what it finds in the second one. -/
theorem map_group_findAll_lines (text : p.takesText = true) (noAnchor : p.hasNoAnchor = true)
    (inLine : ∀ s ∈ p.sets, s.mem '\n' = false) (a b : String) :
    (p.findAll (a ++ "\n" ++ b)).map Match.group =
      (p.findAll a).map Match.group ++ (p.findAll b).map Match.group := by
  have fitsFirst : p.Fits (.above b) := ⟨noAnchor, fun s hs x hx => by
    obtain rfl : '\n' = x := by simpa [Frame.above] using hx
    exact inLine s hs⟩
  have fitsSecond : p.Fits (.below a) := ⟨noAnchor, fun s _ x hx => by cases hx⟩
  have inFirst := finds_findAll text a
  have inSecond := finds_findAll text b
  obtain ⟨e, first, ended⟩ := exists_leads_end a
  obtain ⟨e', second, ended'⟩ := exists_leads_end b
  -- No match begins with the line feed, and none behind the second line.
  have passes : p.findFrom (e.within (.above b)) =
      p.findFrom ((Cursor.ofText b.toList).within (.below a)) := by
    rw [findFrom_step (leads_lineFeed first ended), matchAt_within fitsFirst,
      matchAt_of_rest_eq_nil text ended, Option.map_none, Option.none_or]
  have nothing : p.findFrom (e'.within (.below a)) = none := by
    have done : (e'.within (.below a)).rest = [] := by simp [Cursor.within, ended', Frame.below]
    rw [findFrom_of_rest_eq_nil done, matchAt_of_rest_eq_nil text done]
  have later := inSecond.within_append fitsSecond second ended' (.nil nothing)
  have parts := inFirst.within_append fitsFirst first ended (later.of_findFrom_eq passes)
  rw [within_above, List.append_nil] at parts
  rw [(finds_findAll text _).unique parts, List.map_append, inFirst.map_group_within,
    inSecond.map_group_within]

end Lines

end GuidelineCompliance.Pattern
