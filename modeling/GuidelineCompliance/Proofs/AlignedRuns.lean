import GuidelineCompliance.Proofs.LineMatches
import GuidelineCompliance.Proofs.WordRuns
import Mathlib.Data.List.Forall2

/-! Runs over two texts: a text, and the same text with a carriage return in front of every line
feed. A pattern that takes no line endings runs alike over both. A repetition that takes them does
so if what follows it does not succeed between a carriage return and its line feed, or is tried
behind the longest stretch only. -/

namespace GuidelineCompliance

namespace Text

def withReturns (cs : List Char) : List Char :=
  cs.flatMap fun x => if x = '\n' then ['\r', '\n'] else [x]

def crlf (s : String) : String := String.ofList (withReturns s.toList)

variable {x : Char} {cs : List Char}

theorem withReturns_append (cs ds : List Char) :
    withReturns (cs ++ ds) = withReturns cs ++ withReturns ds := List.flatMap_append

theorem withReturns_feed (cs : List Char) :
    withReturns ('\n' :: cs) = '\r' :: '\n' :: withReturns cs := rfl

theorem withReturns_cons_of_ne (h : x ≠ '\n') : withReturns (x :: cs) = x :: withReturns cs := by
  simp [withReturns, h]

theorem withReturns_eq_self (free : '\n' ∉ cs) : withReturns cs = cs := by
  induction cs with
  | nil => rfl
  | cons x cs ih =>
    rw [List.mem_cons, not_or] at free
    rw [withReturns_cons_of_ne (Ne.symm free.1), ih free.2]

theorem forall_mem_withReturns {P : Char → Prop} (ret : P '\r') (h : ∀ x ∈ cs, P x) :
    ∀ x ∈ withReturns cs, P x := by
  intro x hx
  obtain ⟨y, hy, hx⟩ := List.mem_flatMap.mp hx
  split at hx
  · rename_i feed
    obtain rfl | rfl : x = '\r' ∨ x = '\n' := by simpa using hx
    · exact ret
    · exact feed ▸ h y hy
  · obtain rfl : x = y := by simpa using hx
    exact h x hy

theorem length_le_withReturns (cs : List Char) : cs.length ≤ (withReturns cs).length := by
  induction cs with
  | nil => exact Nat.le_refl 0
  | cons x cs ih =>
    by_cases feed : x = '\n'
    · subst feed
      simp only [withReturns_feed, List.length_cons]
      omega
    · simpa [withReturns_cons_of_ne feed] using ih

theorem toList_crlf (s : String) : (crlf s).toList = withReturns s.toList := String.toList_ofList

theorem crlf_ofList (cs : List Char) :
    crlf (String.ofList cs) = String.ofList (withReturns cs) := by
  rw [crlf, String.toList_ofList]

theorem crlf_eq_self {s : String} (free : '\n' ∉ s.toList) : crlf s = s := by
  rw [crlf, withReturns_eq_self free, String.ofList_toList]

end Text

open Text

theorem rel_or {α β : Type} {r : α → β → Prop} {a b : Option α} {a' b' : Option β}
    (first : Option.Rel r a a') (second : Option.Rel r b b') :
    Option.Rel r (a.or b) (a'.or b') := by
  cases first with
  | none => exact second
  | some h => exact .some h

theorem exists_of_rel {α β : Type} {r : α → β → Prop} {a : Option α} {b : Option β}
    (h : Option.Rel r a b) (nonempty : a.isSome = true) :
    ∃ x y, a = some x ∧ b = some y ∧ r x y := by
  cases h with
  | none => cases nonempty
  | @some x y same => exact ⟨x, y, rfl, rfl, same⟩

namespace Pattern

/-- Two places with the same text ahead, but for the carriage returns at the second one. -/
inductive Aligned : Cursor → Cursor → Prop where
  | ended {c c'} (left : c.rest = []) (right : c'.rest = []) : Aligned c c'
  | char {x c c' d d'} (other : x ≠ '\n') (plain : x ≠ '\r') (left : Leads c [x] d)
    (right : Leads c' [x] d') (ahead : Aligned d d') : Aligned c c'
  | feed {c c' d e d'} (left : Leads c ['\n'] d) (ret : Leads c' ['\r'] e)
    (right : Leads e ['\n'] d') (ahead : Aligned d d') : Aligned c c'

structure Stretch (taken : List Char) (c c' d d' : Cursor) : Prop where
  plain : '\r' ∉ taken
  left : Leads c taken d
  right : Leads c' (withReturns taken) d'

namespace Stretch

variable {c c' d d' e e' : Cursor} {taken taken' : List Char}

theorem refl (c c' : Cursor) : Stretch [] c c' c c' := ⟨List.not_mem_nil, .refl c, .refl c'⟩

theorem trans (first : Stretch taken c c' d d') (second : Stretch taken' d d' e e') :
    Stretch (taken ++ taken') c c' e e' where
  plain := by simp [first.plain, second.plain]
  left := first.left.trans second.left
  right := withReturns_append _ _ ▸ first.right.trans second.right

theorem char {x : Char} (other : x ≠ '\n') (plain : x ≠ '\r') (left : Leads c [x] d)
    (right : Leads c' [x] d') : Stretch [x] c c' d d' where
  plain := by simpa using plain.symm
  left := left
  right := by rwa [withReturns_cons_of_ne other]

theorem feed (left : Leads c ['\n'] d) (ret : Leads c' ['\r'] e) (right : Leads e ['\n'] d') :
    Stretch ['\n'] c c' d d' where
  plain := by decide
  left := left
  right := ret.trans right

end Stretch

section Aligned

variable {c c' d d' : Cursor} {taken : List Char}

theorem aligned_of_rest (plain : '\r' ∉ c.rest) (h : c'.rest = withReturns c.rest) :
    Aligned c c' := by
  generalize hrest : c.rest = rest at *
  induction rest generalizing c c' with
  | nil => exact .ended hrest h
  | cons x rest ih =>
    rw [List.mem_cons, not_or] at plain
    obtain ⟨d, left, hd⟩ := Leads.exists_of_rest (show c.rest = [x] ++ rest from hrest)
    by_cases feed : x = '\n'
    · subst feed
      obtain ⟨e, ret, he⟩ := Leads.exists_of_rest (show c'.rest = ['\r'] ++ _ from h)
      obtain ⟨d', right, hd'⟩ := Leads.exists_of_rest (show e.rest = ['\n'] ++ _ from he)
      exact .feed left ret right (ih hd plain.2 hd')
    · rw [withReturns_cons_of_ne feed] at h
      obtain ⟨d', right, hd'⟩ := Leads.exists_of_rest (show c'.rest = [x] ++ _ from h)
      exact .char feed (Ne.symm plain.1) left right (ih hd plain.2 hd')

namespace Aligned

theorem plain (h : Aligned c c') : '\r' ∉ c.rest := by
  induction h with
  | ended left => simp [left]
  | char other plain left right ahead ih => simp [left.rest, plain.symm, ih]
  | feed left ret right ahead ih => simp [left.rest, ih]

theorem rest (h : Aligned c c') : c'.rest = withReturns c.rest := by
  induction h with
  | ended left right => rw [left, right]; rfl
  | char other plain left right ahead ih =>
    rw [left.rest, right.rest, List.singleton_append, List.singleton_append,
      withReturns_cons_of_ne other, ih]
  | feed left ret right ahead ih => rw [left.rest, ret.rest, right.rest, ih]; rfl

theorem stretch (h : Aligned c c') (along : Stretch taken c c' d d') : Aligned d d' := by
  have whole := h.rest
  rw [along.left.rest, along.right.rest, withReturns_append] at whole
  refine aligned_of_rest (fun mem => h.plain ?_) (List.append_cancel_left whole)
  rw [along.left.rest]
  exact List.mem_append_right _ mem

theorem exists_stretch (h : Aligned c c') (left : Leads c taken d) :
    ∃ d', Stretch taken c c' d d' := by
  have plain := h.plain
  have rest := h.rest
  rw [left.rest, List.mem_append, not_or] at plain
  rw [left.rest, withReturns_append] at rest
  obtain ⟨d', right, -⟩ := Leads.exists_of_rest rest
  exact ⟨d', plain.1, left, right⟩

end Aligned

end Aligned

/-- The groups of two runs have taken the same stretches. -/
abbrev Alike (caps caps' : Captures) : Prop :=
  List.Forall₂ (fun x x' => x.1 = x'.1 ∧
    ∃ taken, Stretch taken x.2.start x'.2.start x.2.stop x'.2.stop) caps caps'

section Follow

variable {α : Type} {r : α → α → Prop} {k k' : Follow α} {c c' d d' : Cursor} {taken : List Char}
  {caps caps' : Captures} {s : CharSet} {p q : Pattern}

/-- From two places on, what follows comes to related ends. -/
def Agree (r : α → α → Prop) (k k' : Follow α) (c c' : Cursor) : Prop :=
  ∀ ⦃taken d d' caps caps'⦄, Stretch taken c c' d d' → Alike caps caps' →
    Option.Rel r (k d caps) (k' d' caps')

theorem Agree.here (h : Agree r k k' c c') (alike : Alike caps caps') :
    Option.Rel r (k c caps) (k' c' caps') := h (.refl c c') alike

theorem Agree.ahead (h : Agree r k k' c c') (along : Stretch taken c c' d d') :
    Agree r k k' d d' := fun _ _ _ _ _ further alike => h (along.trans further) alike

theorem Agree.alt (first : Agree r (run p k) (run p k') c c')
    (second : Agree r (run q k) (run q k') c c') :
    Agree r (run (.alt p q) k) (run (.alt p q) k') c c' := fun _ _ _ _ _ along alike => by
  rw [run_alt, run_alt]
  exact rel_or (first along alike) (second along alike)

/-- A pattern takes the same stretches of both texts, whatever follows it. -/
def Indifferent (p : Pattern) : Prop :=
  ∀ ⦃α : Type⦄ ⦃r : α → α → Prop⦄ ⦃k k' : Follow α⦄ ⦃c c' : Cursor⦄, Aligned c c' →
    Agree r k k' c c' → Agree r (run p k) (run p k') c c'

theorem rel_run_set (feed : s.mem '\n' = false) (ret : s.mem '\r' = false) (h : Aligned c c')
    (agree : Agree r k k' c c') (alike : Alike caps caps') :
    Option.Rel r (run (set s) k c caps) (run (set s) k' c' caps') := by
  cases h with
  | ended left right =>
    rw [run_set_of_rest_eq_nil left, run_set_of_rest_eq_nil right]
    exact .none
  | char other plain left right ahead =>
    rw [run_set_of_leads left, run_set_of_leads right]
    split
    · exact agree (.char other plain left right) alike
    · exact .none
  | feed left back right ahead =>
    rw [run_set_of_leads left, run_set_of_leads back, feed, ret]
    exact .none

/-- A repetition goes on alike if what follows it does not begin with a line feed, or if it takes no
line feed. -/
theorem rel_run_star (greedy : Bool) (same : s.mem '\r' = s.mem '\n')
    (refuses : s.mem '\n' = true → ∀ e caps, e.rest.head? = some '\n' → k' e caps = none)
    (h : Aligned c c') (agree : Agree r k k' c c') (alike : Alike caps caps') :
    Option.Rel r (run (star greedy (set s)) k c caps) (run (star greedy (set s)) k' c' caps') := by
  have join {c c' : Cursor} (here : Option.Rel r (k c caps) (k' c' caps'))
      (rounds : Option.Rel r (run (plus greedy (set s)) k c caps)
        (run (plus greedy (set s)) k' c' caps')) :
      Option.Rel r (run (star greedy (set s)) k c caps)
        (run (star greedy (set s)) k' c' caps') := by
    rw [run_star, run_star]
    split
    · exact rel_or rounds here
    · exact rel_or here rounds
  induction h with
  | ended left right =>
    refine join (agree.here alike) ?_
    rw [run_plus_of_rest_eq_nil left, run_plus_of_rest_eq_nil right]
    exact .none
  | char other plain left right ahead ih =>
    refine join (agree.here alike) ?_
    rw [run_plus_of_leads left, run_plus_of_leads right]
    split
    · exact ih (agree.ahead (.char other plain left right))
    · exact .none
  | @feed c c' d e d' left ret right ahead ih =>
    refine join (agree.here alike) ?_
    rw [run_plus_of_leads left, run_plus_of_leads ret, same]
    split
    · rename_i mem
      -- The run in the second text does not stop in front of the line feed.
      have between : run (star greedy (set s)) k' e caps' =
          run (star greedy (set s)) k' d' caps' := by
        have stops := refuses mem e caps' (by simp [right.rest])
        rw [run_star, run_plus_of_leads right, if_pos mem, stops, Option.or_none, Option.none_or,
          ite_self]
      rw [between]
      exact ih (agree.ahead (.feed left ret right))
    · exact .none

namespace Indifferent

theorem of_run (h : ∀ {α : Type} {r : α → α → Prop} {k k' : Follow α} {c c' : Cursor}
    {caps caps' : Captures}, Aligned c c' → Agree r k k' c c' → Alike caps caps' →
      Option.Rel r (run p k c caps) (run p k' c' caps')) : Indifferent p :=
  fun _ _ _ _ _ _ aligned agree _ _ _ _ _ along alike =>
    h (aligned.stretch along) (agree.ahead along) alike

theorem empty : Indifferent .empty := fun _ _ _ _ _ _ _ agree => agree

theorem set (feed : s.mem '\n' = false) (ret : s.mem '\r' = false) : Indifferent (.set s) :=
  of_run (rel_run_set feed ret)

theorem char {x : Char} (feed : x ≠ '\n') (ret : x ≠ '\r') : Indifferent (.char x) :=
  set (by simpa using feed.symm) (by simpa using ret.symm)

theorem star (greedy : Bool) (feed : s.mem '\n' = false) (ret : s.mem '\r' = false) :
    Indifferent (.star greedy (.set s)) :=
  of_run fun aligned agree alike => rel_run_star greedy (ret.trans feed.symm)
    (fun mem => absurd mem (by simp [feed])) aligned agree alike

theorem many1 (feed : s.mem '\n' = false) (ret : s.mem '\r' = false) : Indifferent (many1 s) :=
  of_run fun aligned agree alike => by
    rw [Pattern.many1, run_plus_eq, run_plus_eq]
    exact (set feed ret aligned (star true feed ret aligned agree)).here alike

theorem alt (first : Indifferent p) (second : Indifferent q) : Indifferent (.alt p q) :=
  fun _ _ _ _ _ _ aligned agree => (first aligned agree).alt (second aligned agree)

theorem opt (h : Indifferent p) : Indifferent (opt true p) := alt h empty

theorem capture {group : Nat} (h : Indifferent p) : Indifferent (.capture group p) :=
  of_run fun aligned agree alike => by
    rw [run_capture, run_capture]
    refine (h aligned fun taken d d' caps caps' along alike => ?_).here alike
    exact agree along (.cons ⟨rfl, taken, along⟩ alike)

theorem all {ps : List Pattern} (h : ∀ p ∈ ps, Indifferent p) : Indifferent (all ps) := by
  induction ps with
  | nil => exact empty
  | cons p ps ih =>
    obtain ⟨first, later⟩ := List.forall_mem_cons.mp h
    intro α r k k' c c' aligned agree
    rw [run_all_cons, run_all_cons]
    exact first aligned (ih later aligned agree)

theorem any {ps : List Pattern} (h : ∀ p ∈ ps, Indifferent p) : Indifferent (any ps) := by
  induction ps with
  | nil => exact set rfl rfl
  | cons p ps ih =>
    obtain ⟨first, later⟩ := List.forall_mem_cons.mp h
    refine of_run fun aligned agree alike => ?_
    rw [run_any_cons, run_any_cons]
    exact rel_or ((first aligned agree).here alike) ((ih later aligned agree).here alike)

theorem lit {word : String} (feed : '\n' ∉ word.toList) (ret : '\r' ∉ word.toList) :
    Indifferent (lit word) :=
  all (List.forall_mem_map.mpr fun _ hx =>
    char (fun same => feed (same ▸ hx)) fun same => ret (same ▸ hx))

end Indifferent

theorem Aligned.exists_longest (h : Aligned c c') (s : CharSet) (feed : s.mem '\n' = true)
    (ret : s.mem '\r' = true) :
    ∃ cs d d', Stretch cs c c' d d' ∧ (∀ x ∈ cs, s.mem x = true) ∧
      (∀ x ∈ withReturns cs, s.mem x = true) ∧ (∀ x ∈ d.rest.head?, s.mem x = false) ∧
      ∀ x ∈ d'.rest.head?, s.mem x = false := by
  obtain ⟨cs, d, leads, taken, stop⟩ := Pattern.exists_longest s c
  obtain ⟨d', along⟩ := h.exists_stretch leads
  refine ⟨cs, d, d', along, taken, forall_mem_withReturns ret taken, stop, ?_⟩
  cases h.stretch along with
  | ended left right => simp [right]
  | char other plain left right ahead =>
    rw [right.rest]
    rw [left.rest] at stop
    exact stop
  | feed left back right ahead =>
    have refused : s.mem '\n' = false := stop '\n' (by simp [left.rest])
    simp [feed] at refused

def Total (k : Follow α) : Prop := ∀ c caps, (k c caps).isSome = true

theorem rel_run_many (feed : s.mem '\n' = true) (ret : s.mem '\r' = true)
    (done : ∀ d, (∀ x ∈ d.rest.head?, s.mem x = false) → (k d caps).isSome = true)
    (ends : ∀ taken d d', Stretch taken c c' d d' → (∀ x ∈ d.rest.head?, s.mem x = false) →
      Option.Rel r (k d caps) (k' d' caps')) (h : Aligned c c') :
    Option.Rel r (run (many s) k c caps) (run (many s) k' c' caps') := by
  obtain ⟨cs, d, d', along, taken, taken', stop, stop'⟩ := h.exists_longest s feed ret
  obtain ⟨a, b, left, right, same⟩ := exists_of_rel (ends cs d d' along stop) (done d stop)
  rw [run_many_of_leads along.left taken stop left,
    run_many_of_leads along.right taken' stop' right]
  exact .some same

theorem agree_run_many (feed : s.mem '\n' = true) (ret : s.mem '\r' = true) (total : Total k)
    (h : Aligned c c') (agree : Agree r k k' c c') :
    Agree r (run (many s) k) (run (many s) k') c c' := fun _ _ _ _ _ along alike =>
  rel_run_many feed ret (fun d _ => total d _)
    (fun _ _ _ further _ => agree.ahead along further alike) (h.stretch along)

theorem rel_run_many1 (feed : s.mem '\n' = true) (ret : s.mem '\r' = true)
    (fails : ∀ u e d, Leads e u d → (∀ x ∈ u, s.mem x = true) → k d caps = none → k e caps = none)
    (fails' : ∀ u e d, Leads e u d → (∀ x ∈ u, s.mem x = true) → k' d caps' = none →
      k' e caps' = none)
    (h : Aligned c c') (agree : Agree r k k' c c') (alike : Alike caps caps') :
    Option.Rel r (run (many1 s) k c caps) (run (many1 s) k' c' caps') := by
  obtain ⟨cs, d, d', along, taken, taken', stop, stop'⟩ := h.exists_longest s feed ret
  by_cases empty : cs = []
  · subst empty
    obtain rfl := along.left.unique (.refl c)
    obtain rfl := along.right.unique (.refl c')
    rw [run_many1_eq_none stop, run_many1_eq_none stop']
    exact .none
  · have empty' : withReturns cs ≠ [] := fun nil => empty (by
      have le := length_le_withReturns cs
      exact List.length_eq_zero_iff.mp (by simpa [nil] using le))
    rw [run_many1_eq_of_longest empty along.left taken stop fun u e => fails u e d,
      run_many1_eq_of_longest empty' along.right taken' stop' fun u e => fails' u e d']
    exact agree along alike

end Follow

/-- Two matches end at corresponding places and have taken the same stretches. -/
structure AlikeMatch (m m' : Match) : Prop where
  stop : Aligned m.span.stop m'.span.stop
  captures : Alike m.captures m'.captures

section Matches

variable {p : Pattern} {c c' : Cursor} {m m' : Match} {ms ms' : List Match}

theorem agree_matched (h : Aligned c c') :
    Agree AlikeMatch (fun d caps => some ⟨⟨c, d⟩, caps⟩) (fun d caps => some ⟨⟨c', d⟩, caps⟩)
      c c' :=
  fun _ _ _ _ _ along alike => .some ⟨h.stretch along, alike⟩

theorem AlikeMatch.group? (h : AlikeMatch m m') (group : Nat) :
    m'.group? group = (m.group? group).map crlf ∧
      ∀ text ∈ m.group? group, '\r' ∉ text.toList := by
  obtain ⟨-, captures⟩ := h
  rw [Match.group?, Match.group?, Match.span?, Match.span?]
  generalize m.captures = caps at captures ⊢
  generalize m'.captures = caps' at captures ⊢
  induction captures with
  | nil => exact ⟨rfl, by simp⟩
  | @cons x x' caps caps' first later ih =>
    obtain ⟨number, taken, along⟩ := first
    rw [List.lookup_cons, List.lookup_cons, ← number]
    cases group == x.1 with
    | false => exact ih
    | true =>
      have left : x.2.text = String.ofList taken := along.left.text
      have right : x'.2.text = String.ofList (withReturns taken) := along.right.text
      refine ⟨?_, fun text ht => ?_⟩
      · simp only [Option.map_some, left, right, crlf_ofList]
      · obtain rfl : x.2.text = text := by simpa using ht
        rw [left, String.toList_ofList]
        exact along.plain

theorem AlikeMatch.group_eq (h : AlikeMatch m m') {group : Nat}
    (free : '\n' ∉ (m.group group).toList) : m'.group group = m.group group := by
  rw [Match.group, (h.group? group).1]
  rw [Match.group] at free ⊢
  cases taken : m.group? group with
  | none => rfl
  | some text =>
    rw [taken] at free
    exact crlf_eq_self free

def MatchesAlike (p : Pattern) : Prop :=
  ∀ ⦃c c' : Cursor⦄, Aligned c c' → Option.Rel AlikeMatch (p.matchAt c) (p.matchAt c')

theorem MatchesAlike.findFrom (same : MatchesAlike p)
    (refuses : ∀ e : Cursor, e.rest.head? = some '\n' → p.matchAt e = none) (h : Aligned c c') :
    Option.Rel AlikeMatch (p.findFrom c) (p.findFrom c') := by
  induction h with
  | ended left right =>
    rw [findFrom_of_rest_eq_nil left, findFrom_of_rest_eq_nil right]
    exact same (.ended left right)
  | char other plain left right ahead ih =>
    rw [findFrom_step left, findFrom_step right]
    exact rel_or (same (.char other plain left right ahead)) ih
  | @feed c c' d e d' left ret right ahead ih =>
    rw [findFrom_step left, findFrom_step ret, findFrom_step right,
      refuses e (by simp [right.rest]), Option.none_or]
    exact rel_or (same (.feed left ret right ahead)) ih

theorem MatchesAlike.exists_finds (same : MatchesAlike p)
    (refuses : ∀ e : Cursor, e.rest.head? = some '\n' → p.matchAt e = none) (found : Finds p c ms)
    (h : Aligned c c') : ∃ ms', Finds p c' ms' ∧ List.Forall₂ AlikeMatch ms ms' := by
  induction found generalizing c' with
  | nil nothing =>
    have related := same.findFrom refuses h
    rw [nothing] at related
    cases hc' : p.findFrom c' with
    | none => exact ⟨[], .nil hc', .nil⟩
    | some m' => rw [hc'] at related; cases related
  | cons found _ ih =>
    have related := same.findFrom refuses h
    rw [found] at related
    cases hc' : p.findFrom c' with
    | none => rw [hc'] at related; cases related
    | some m' =>
      rw [hc'] at related
      cases related with
      | some first =>
        obtain ⟨ms', later, alike⟩ := ih first.stop
        exact ⟨m' :: ms', .cons hc' later, .cons first alike⟩

theorem aligned_ofText {s : String} (plain : '\r' ∉ s.toList) :
    Aligned (.ofText s.toList) (.ofText (crlf s).toList) :=
  aligned_of_rest plain (toList_crlf s)

theorem MatchesAlike.findAll (same : MatchesAlike p)
    (refuses : ∀ e : Cursor, e.rest.head? = some '\n' → p.matchAt e = none)
    (text : p.takesText = true) {s : String} (plain : '\r' ∉ s.toList) :
    List.Forall₂ AlikeMatch (p.findAll s) (p.findAll (crlf s)) := by
  obtain ⟨ms', found, alike⟩ :=
    same.exists_finds refuses (finds_findAll text s) (aligned_ofText plain)
  rwa [(finds_findAll text (crlf s)).unique found]

end Matches

end Pattern

end GuidelineCompliance
