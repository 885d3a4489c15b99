import GuidelineCompliance.Proofs.Groups
import GuidelineCompliance.Proofs.Runs

/-! A text within a larger one. A pattern that has no anchors, and does not take the character that
follows the text, matches there exactly as it matches in the text alone. -/

namespace GuidelineCompliance.Pattern

section Fuel

variable {α : Type} {p : Pattern} {k k' : Follow α} {c : Cursor} {caps : Captures}

/-- What follows one more round: nothing, if the round took nothing, and else further rounds. -/
def further (p : Pattern) (greedy : Bool) (k : Follow α) (n : Nat) (c : Cursor) : Follow α :=
  fun d caps => if d.offset = c.offset then none else rounds (run p) greedy k n d caps

theorem rounds_succ_eq (p : Pattern) (greedy : Bool) (k : Follow α) (n : Nat) (c : Cursor)
    (caps : Captures) : rounds (run p) greedy k (n + 1) c caps =
      if greedy then (run p (further p greedy k n c) c caps).or (k c caps)
      else (k c caps).or (run p (further p greedy k n c) c caps) := by
  cases greedy with
  | true => exact or_else_eq_or _ _
  | false => exact or_else_eq_or _ _

/-- What follows a pattern matters at the places ahead only. -/
def LooksAhead (p : Pattern) : Prop :=
  ∀ {α : Type} {k k' : Follow α} {c : Cursor} {caps : Captures},
    (∀ u d caps', Leads c u d → k d caps' = k' d caps') → run p k c caps = run p k' c caps

theorem rounds_congr (ahead : LooksAhead p) (greedy : Bool) (n : Nat)
    (h : ∀ u d caps', Leads c u d → k d caps' = k' d caps') :
    rounds (run p) greedy k n c caps = rounds (run p) greedy k' n c caps := by
  induction n generalizing c caps with
  | zero => exact h [] c caps (.refl c)
  | succ n ih =>
    have again : run p (further p greedy k n c) c caps = run p (further p greedy k' n c) c caps :=
      ahead fun u d caps' hu => by
        rw [further, further, ih fun v e caps'' hv => h _ e caps'' (hu.trans hv)]
    rw [rounds_succ_eq, rounds_succ_eq, again, h [] c caps (.refl c)]

theorem run_congr (p : Pattern) : LooksAhead p := by
  induction p with
  | empty => exact fun h => h [] _ _ (.refl _)
  | set s =>
    intro α k k' c caps h
    obtain ⟨n, before, rest⟩ := c
    cases rest with
    | nil => rfl
    | cons x rest => rw [run_set_of_leads .step, run_set_of_leads .step, h _ _ _ .step]
  | anchor a =>
    intro α k k' c caps h
    rw [run, run, h [] c caps (.refl c)]
  | seq p q ihp ihq =>
    exact fun h => ihp fun u d caps' hu => ihq fun v e caps'' hv => h _ e caps'' (hu.trans hv)
  | alt p q ihp ihq =>
    intro α k k' c caps h
    rw [run_alt, run_alt, ihp h, ihq h]
  | plus greedy p ih =>
    intro α k k' c caps h
    rw [run, run]
    refine ih fun u d caps' hu => ?_
    split
    · exact h u d caps' hu
    · exact rounds_congr ih greedy _ fun v e caps'' hv => h _ e caps'' (hu.trans hv)
  | capture group p ih => exact fun h => ih fun u d caps' hu => h u d _ hu

theorem run_none (p : Pattern) : run p (fun _ _ => (none : Option α)) c caps = none := by
  rw [Option.eq_none_iff_forall_ne_some]
  intro r found
  obtain ⟨d, caps', -, done⟩ := run_sound p found
  cases done

/-- A round takes at least one character, so no more rounds are tried than characters are left. -/
theorem rounds_succ (p : Pattern) (greedy : Bool) {n : Nat} (h : c.rest.length ≤ n) :
    rounds (run p) greedy k (n + 1) c caps = rounds (run p) greedy k n c caps := by
  induction n generalizing c caps with
  | zero =>
    have ended : c.rest = [] := List.eq_nil_of_length_eq_zero (Nat.le_zero.mp h)
    have again : run p (further p greedy k 0 c) c caps = none := by
      rw [← run_none p]
      refine run_congr p fun u d caps' hu => ?_
      obtain rfl : u = [] := (List.append_eq_nil_iff.mp (hu.rest.symm.trans ended)).1
      exact if_pos (congrArg Cursor.offset (hu.unique (.refl c)))
    rw [rounds_succ_eq, again, Option.none_or, Option.or_none, ite_self]
    rfl
  | succ n ih =>
    have again : run p (further p greedy k (n + 1) c) c caps =
        run p (further p greedy k n c) c caps := by
      refine run_congr p fun u d caps' hu => ?_
      rw [further, further]
      split
      · rfl
      · rename_i moves
        have fewer := hu.length_rest_lt (Nat.lt_of_le_of_ne hu.offset_le (Ne.symm moves))
        exact ih (by omega)
    rw [rounds_succ_eq, again, rounds_succ_eq]

theorem rounds_of_le (p : Pattern) (greedy : Bool) {n : Nat} (h : c.rest.length ≤ n) :
    rounds (run p) greedy k n c caps = rounds (run p) greedy k c.rest.length c caps := by
  induction n, h using Nat.le_induction with
  | base => rfl
  | succ n le ih => rw [rounds_succ p greedy le, ih]

end Fuel

def hasNoAnchor : Pattern → Bool
  | empty => true
  | set _ => true
  | anchor _ => false
  | seq p q => p.hasNoAnchor && q.hasNoAnchor
  | alt p q => p.hasNoAnchor && q.hasNoAnchor
  | plus _ p => p.hasNoAnchor
  | capture _ p => p.hasNoAnchor

/-- What surrounds a text in a larger one: the octets and the last character before it, and the
characters behind it. -/
structure Frame where
  offset : Nat
  before : Option Char
  behind : List Char

def Cursor.within (c : Cursor) (f : Frame) : Cursor :=
  ⟨f.offset + c.offset, c.before.or f.before, c.rest ++ f.behind⟩

def Span.within (s : Span) (f : Frame) : Span := ⟨s.start.within f, s.stop.within f⟩

def Captures.within (caps : Captures) (f : Frame) : Captures :=
  caps.map fun (group, s) => (group, s.within f)

def Match.within (m : Match) (f : Frame) : Match := ⟨m.span.within f, m.captures.within f⟩

/-- A pattern that matches in a text as it does in a larger one. -/
structure Fits (p : Pattern) (f : Frame) : Prop where
  noAnchor : p.hasNoAnchor = true
  stops : ∀ s ∈ p.sets, ∀ x ∈ f.behind.head?, s.mem x = false

variable {p q : Pattern} {f : Frame} {c d e : Cursor} {caps : Captures} {passed : List Char}

theorem Leads.within (h : Leads c passed d) (f : Frame) :
    Leads (c.within f) passed (d.within f) where
  rest := by simp [Cursor.within, h.rest]
  offset := by simp [Cursor.within, h.offset, Nat.add_assoc]
  before := by simp [Cursor.within, h.before, Option.or_assoc]

section Runs

variable {α β : Type} {k : Follow α} {k' : Follow β} {g : β → α}

/-- In the larger text `k` does what `k'` does in the text. -/
def Carries (f : Frame) (g : β → α) (k : Follow α) (k' : Follow β) : Prop :=
  ∀ c caps, k (c.within f) (Captures.within caps f) = (k' c caps).map g

theorem Carries.rounds (round : ∀ {k : Follow α} {k' : Follow β}, Carries f g k k' →
      Carries f g (run p k) (run p k')) (h : Carries f g k k') (greedy : Bool) (n : Nat) :
    Carries f g (rounds (run p) greedy k n) (rounds (run p) greedy k' n) := by
  induction n with
  | zero => exact h
  | succ n ih =>
    intro c caps
    have again : Carries f g (further p greedy k n (c.within f)) (further p greedy k' n c) := by
      intro d caps'
      rw [further, further, ih]
      by_cases same : d.offset = c.offset
      · simp [Cursor.within, same]
      · simp [Cursor.within, same]
    rw [rounds_succ_eq, rounds_succ_eq, round again, h]
    cases greedy with
    | true => exact Option.map_or.symm
    | false => exact Option.map_or.symm

theorem Carries.run (fits : p.Fits f) (h : Carries f g k k') :
    Carries f g (run p k) (run p k') := by
  induction p generalizing k k' with
  | empty => exact h
  | set s =>
    rintro ⟨n, before, rest⟩ caps
    cases rest with
    | nil =>
      -- In the larger text the next character is the first one behind, and the set refuses it.
      have refused := fits.stops s (List.mem_singleton_self s)
      cases hb : f.behind with
      | nil => rw [run_set_of_rest_eq_nil (by simp [Cursor.within, hb]), run_set_of_rest_eq_nil rfl,
          Option.map_none]
      | cons x behind =>
        obtain ⟨d, one, -⟩ := Leads.exists_of_rest
          (show (Cursor.within ⟨n, before, []⟩ f).rest = [x] ++ behind by simp [Cursor.within, hb])
        rw [run_set_of_leads one, run_set_of_rest_eq_nil rfl, refused x (by simp [hb])]
        rfl
    | cons x rest =>
      have one : Leads ⟨n, before, x :: rest⟩ [x] _ := .step
      rw [run_set_of_leads one, run_set_of_leads (one.within f)]
      split
      · exact h _ caps
      · rfl
  | anchor a => exact absurd fits.noAnchor Bool.false_ne_true
  | seq p q ihp ihq =>
    have noAnchor := Bool.and_eq_true_iff.mp fits.noAnchor
    have first : p.Fits f := ⟨noAnchor.1, fun s hs => fits.stops s (List.mem_append_left _ hs)⟩
    have second : q.Fits f := ⟨noAnchor.2, fun s hs => fits.stops s (List.mem_append_right _ hs)⟩
    exact ihp first (ihq second h)
  | alt p q ihp ihq =>
    have noAnchor := Bool.and_eq_true_iff.mp fits.noAnchor
    have first : p.Fits f := ⟨noAnchor.1, fun s hs => fits.stops s (List.mem_append_left _ hs)⟩
    have second : q.Fits f := ⟨noAnchor.2, fun s hs => fits.stops s (List.mem_append_right _ hs)⟩
    intro c caps
    rw [run_alt, run_alt, ihp first h, ihq second h, Option.map_or]
  | plus greedy p ih =>
    have inner : p.Fits f := ⟨fits.noAnchor, fits.stops⟩
    intro c caps
    rw [Pattern.run, Pattern.run]
    refine ih inner (fun d caps' => ?_) c caps
    by_cases same : d.offset = c.offset
    · simp [Cursor.within, same, ← h d caps']
    · have moves : (d.within f).offset ≠ (c.within f).offset := by simpa [Cursor.within] using same
      have enough : d.rest.length ≤ (d.within f).rest.length := by simp [Cursor.within]
      rw [if_neg moves, if_neg same, Carries.rounds (ih inner) h greedy _ d caps',
        rounds_of_le p greedy enough]
  | capture group p ih =>
    have inner : p.Fits f := ⟨fits.noAnchor, fits.stops⟩
    intro c caps
    exact ih inner (fun d caps' => h d ((group, ⟨c, d⟩) :: caps')) c caps

end Runs

theorem matchAt_within (fits : p.Fits f) (c : Cursor) :
    p.matchAt (c.within f) = (p.matchAt c).map (·.within f) := by
  have carries : Carries f (·.within f) (fun d caps => some ⟨⟨c.within f, d⟩, caps⟩)
      (fun d caps => some (⟨⟨c, d⟩, caps⟩ : Match)) := fun _ _ => rfl
  exact carries.run fits c []

/-- A search in the larger text goes through the text, and then on from its end. -/
theorem findFrom_within (fits : p.Fits f) (h : Leads c passed e) (ended : e.rest = []) :
    p.findFrom (c.within f) = ((p.findFrom c).map (·.within f)).or (p.findFrom (e.within f)) := by
  induction passed generalizing c with
  | nil =>
    obtain rfl := h.unique (.refl c)
    rw [findFrom_of_rest_eq_nil ended]
    cases found : p.matchAt e with
    | none => rfl
    | some m =>
      have there : p.matchAt (e.within f) = some (m.within f) := by
        rw [matchAt_within fits, found, Option.map_some]
      rw [findFrom_of_matchAt there]
      rfl
  | cons x passed ih =>
    obtain ⟨d, first, later⟩ := h.exists_step
    rw [findFrom_step first, findFrom_step (first.within f), matchAt_within fits, ih later,
      Option.map_or, Option.or_assoc]

end GuidelineCompliance.Pattern
