import GuidelineCompliance.Proofs.LineQueries

/-! Queries that are asked again. Behind every match the finder goes on, except at the end of the
text: an empty match there is found by every query that matches nothing, as often as it is asked. -/

namespace GuidelineCompliance

open Pattern (Cursor Leads octets)

def endOf (source : String) : Cursor :=
  ⟨octets source.toList, source.toList.getLast?, []⟩

theorem leads_endOf (source : String) :
    Leads (.ofText source.toList) source.toList (endOf source) :=
  ⟨(List.append_nil _).symm, (Nat.zero_add _).symm, (Option.or_none).symm⟩

theorem offset_endOf (source : String) : (endOf source).offset = source.utf8ByteSize := by
  have size := Pattern.utf8ByteSize_ofList source.toList
  rw [String.ofList_toList] at size
  exact size.symm

namespace StandsIn

variable {source : String} {c : Cursor}

theorem leads_endOf (h : StandsIn source c) : Leads c c.rest (endOf source) := by
  obtain ⟨front, leads⟩ := h
  have whole := GuidelineCompliance.leads_endOf source
  have split : source.toList = front ++ c.rest := leads.rest
  obtain ⟨gap, same, later⟩ := leads.between whole (by simp [split])
  obtain rfl := List.append_cancel_left (split.symm.trans same)
  exact later

theorem offset_eq_iff (h : StandsIn source c) : c.offset = source.utf8ByteSize ↔ c.rest = [] := by
  have leads := h.leads_endOf
  rw [← offset_endOf]
  constructor
  · intro same
    by_contra more
    exact absurd same (Nat.ne_of_lt (leads.offset_lt more))
  · intro empty
    rw [leads.offset, empty, octets, Nat.add_zero]

theorem eq_endOf (h : StandsIn source c) (ended : c.rest = []) : c = endOf source := by
  have leads := h.leads_endOf
  rw [ended] at leads
  exact (leads.unique (.refl c)).symm

end StandsIn

namespace LineFinder

def start? (f : LineFinder) (q : Query) : Option Nat :=
  (q.toPattern.findFrom f.cursor).map (·.span.start.offset)

/-- The offsets at which the matches of the queries that succeed start. -/
def starts (f : LineFinder) : List Query → List Nat
  | [] => []
  | q :: qs => (f.start? q).toList ++ (f.ask q).2.starts qs

variable {source : String} {f : LineFinder} {q : Query} {c d : Cursor} {n : Nat}

theorem start?_eq_some_iff : f.start? q = some n ↔
    ∃ c d, q.First f.cursor c d ∧ c.offset = n := by
  constructor
  · intro h
    obtain ⟨m, found, rfl⟩ := Option.map_eq_some_iff.mp h
    exact ⟨_, _, first_of_findFrom found, rfl⟩
  · rintro ⟨c, d, first, rfl⟩
    obtain ⟨passed, leads⟩ := first.ahead
    cases found : q.toPattern.findFrom f.cursor with
    | none =>
      obtain ⟨m, hit, -⟩ := Query.hits_iff.mp first.hits
      rw [Pattern.matchAt_of_findFrom_eq_none found leads] at hit
      cases hit
    | some m =>
      obtain ⟨rfl, -⟩ := first.unique (first_of_findFrom found)
      rw [start?, found, Option.map_some]

theorem start_bounds (searches : f.Searches source) (h : f.start? q = some n) :
    f.position ≤ n ∧ n ≤ (f.ask q).2.position ∧
      (n < (f.ask q).2.position ∨ n = source.utf8ByteSize) := by
  obtain ⟨c, d, first, rfl⟩ := start?_eq_some_iff.mp h
  obtain ⟨passed, leads⟩ := first.ahead
  obtain ⟨served, searches'⟩ := serves_ask searches q
  rw [searches.position_eq, searches'.position_eq]
  refine ⟨leads.offset_le, ?_⟩
  obtain past | ⟨ended, same⟩ := (served.of_first first).2.moves
  · exact ⟨Nat.le_of_lt past, Or.inl past⟩
  · exact ⟨Nat.le_of_eq (congrArg Cursor.offset same).symm,
      Or.inr ((searches.standsIn.move leads).offset_eq_iff.mpr ended)⟩

theorem mem_starts_bounds (searches : f.Searches source) {qs : List Query} (h : n ∈ f.starts qs) :
    f.position ≤ n ∧ n ≤ source.utf8ByteSize := by
  induction qs generalizing f with
  | nil => cases h
  | cons q qs ih =>
    obtain ⟨served, searches'⟩ := serves_ask searches q
    obtain now | later := List.mem_append.mp h
    · obtain ⟨low, high, -⟩ := start_bounds searches (Option.mem_toList.mp now)
      rw [searches'.position_eq] at high
      exact ⟨low, high.trans searches'.standsIn.offset_le⟩
    · obtain ⟨low, high⟩ := ih searches' later
      obtain ⟨passed, leads⟩ := served.exists_leads
      rw [searches'.position_eq] at low
      exact ⟨searches.position_eq ▸ leads.offset_le.trans low, high⟩

theorem pairwise_starts (searches : f.Searches source) (qs : List Query) :
    (f.starts qs).Pairwise fun m n => m ≤ n ∧ (m = n ↔ m = source.utf8ByteSize) := by
  induction qs generalizing f with
  | nil => exact List.Pairwise.nil
  | cons q qs ih =>
    have searches' := (serves_ask searches q).2
    rw [starts, List.pairwise_append]
    refine ⟨Option.pairwise_toList, ih searches', fun m now n later => ?_⟩
    obtain ⟨-, behind, moves⟩ := start_bounds searches (Option.mem_toList.mp now)
    have bounds := mem_starts_bounds searches' later
    omega

theorem isSome_ask_of_hits_endOf (searches : f.Searches source) (h : q.Hits (endOf source) d) :
    (f.ask q).1.isSome = true :=
  (serves_ask searches q).1.isSome_iff.mpr ⟨_, _, d, searches.standsIn.leads_endOf, h⟩

/-- A query that finds nothing at the end of the text moves the finder each time that it
succeeds. -/
theorem exists_ask_eq_none (searches : f.Searches source)
    (nothing : ∀ d, ¬ q.Hits (endOf source) d) :
    ∃ n ≤ f.cursor.rest.length, ((f.askAll (List.replicate n q)).2.ask q).1 = none := by
  generalize length : f.cursor.rest.length = k
  induction k using Nat.strong_induction_on generalizing f with
  | _ k ih =>
    subst length
    obtain ⟨served, searches'⟩ := serves_ask searches q
    cases answer : (f.ask q).1 with
    | none => exact ⟨0, Nat.zero_le _, answer⟩
    | some line =>
      rw [answer] at served
      obtain ⟨c, d, first⟩ := served.exists_first
      obtain ⟨passed, leads⟩ := first.ahead
      obtain ⟨further, later⟩ := served.exists_leads
      have fewer : (f.ask q).2.cursor.rest.length < f.cursor.rest.length := by
        obtain past | ⟨ended, -⟩ := (served.of_first first).2.moves
        · exact later.length_rest_lt (Nat.lt_of_le_of_lt leads.offset_le past)
        · have there := (searches.standsIn.move leads).eq_endOf ended
          exact absurd first.hits (there ▸ nothing d)
      obtain ⟨n, le, ended⟩ := ih _ fewer searches' rfl
      exact ⟨n + 1, by omega, ended⟩

theorem hits_text_endOf_iff {t : String} :
    (∃ d, (Query.text t).Hits (endOf source) d) ↔ t = "" := by
  constructor
  · rintro ⟨d, ⟨stands⟩⟩
    have empty : t.toList = [] := (List.append_eq_nil_iff.mp stands.rest.symm).1
    simpa using empty
  · rintro rfl
    exact ⟨_, .text (.refl _)⟩

/-- Two matches of one run start at one offset exactly if the first of them starts at the end of the
text. A query that is repeated fails in the end exactly if it finds nothing there. Of all texts only
the empty one is found there. -/
theorem starts_eq_iff_endOf (source : String) (qs : List Query) :
    (∀ q n, (after source qs).start? q = some n ↔
        ∃ c d, q.First (after source qs).cursor c d ∧ c.offset = n) ∧
      ((ofText source).starts qs).Pairwise (fun m n => m = n ↔ m = source.utf8ByteSize) ∧
      (∀ q, (∃ n ≤ source.length, ((after source (qs ++ List.replicate n q)).ask q).1 = none) ↔
        ∀ d, ¬ q.Hits (endOf source) d) ∧
      ∀ t, (∀ d, ¬ (Query.text t).Hits (endOf source) d) ↔ t ≠ "" := by
  have start := searches_ofText source
  have searches (qs : List Query) : (after source qs).Searches source := searches_askAll start qs
  refine ⟨fun q n => start?_eq_some_iff, (pairwise_starts start qs).imp And.right, fun q => ?_,
    fun t => ?_⟩
  · constructor
    · rintro ⟨n, -, failed⟩ d hits
      have found := isSome_ask_of_hits_endOf (searches (qs ++ List.replicate n q)) hits
      rw [failed] at found
      cases found
    · intro nothing
      obtain ⟨n, le, failed⟩ := exists_ask_eq_none (searches qs) nothing
      obtain ⟨front, leads⟩ := (searches qs).standsIn
      have whole : source.toList = front ++ (after source qs).cursor.rest := leads.rest
      refine ⟨n, ?_, ?_⟩
      · rw [← String.length_toList, whole, List.length_append]
        omega
      · rw [after, askAll_append]
        exact failed
  · rw [← not_exists, hits_text_endOf_iff]

theorem not_forall_nodup_starts :
    ¬ ∀ (source : String) (qs : List Query), ((ofText source).starts qs).Nodup := by
  intro all
  exact absurd (all "ab" (List.replicate 4 (.pattern .empty))) (by decide)

end LineFinder

end GuidelineCompliance
