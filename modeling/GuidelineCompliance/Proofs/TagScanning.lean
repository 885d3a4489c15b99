import GuidelineCompliance.Proofs.Groups
import GuidelineCompliance.Proofs.Runs
import GuidelineCompliance.Proofs.Trimming
import GuidelineCompliance.Proofs.WrittenTags

/-! A search through written tags. A pattern that matches each tag of one kind from end to end, and
does not match at any place in a tag of another kind, finds the tags of its kind in their order. -/

namespace GuidelineCompliance

open Pattern (Cursor Leads Match)

/-- How a pattern reads written tags of the kind that has a value: it matches such a tag from end to
end and reads the value, and it does not match at any place in another tag. -/
structure Reads {β : Type} (p : Pattern) (read : Match → β) (value : WrittenTag → Option β) :
    Prop where
  text : p.takesText = true
  starts : ∀ {c m}, p.matchAt c = some m → ∃ x ∈ c.rest.head?, x ≠ ' '
  own : ∀ {t b ts c d}, t.IsPlain → value t = some b → c.before.all (· == ' ') = true →
    Leads c t.write.toList d → d.rest = WrittenTag.following ts →
      ∃ m, p.matchAt c = some m ∧ m.span.stop = d ∧ read m = b
  other : ∀ {t v ts c}, t.IsPlain → value t = none → t.Remainder v →
    c.rest = v ++ WrittenTag.following ts → p.matchAt c = none

namespace Reads

open WrittenTag

variable {β : Type} {p : Pattern} {read : Match → β} {value : WrittenTag → Option β}

theorem matchAt_eq_none (reads : Reads p read value) {c : Cursor}
    (h : ∀ x ∈ c.rest.head?, x = ' ') : p.matchAt c = none := by
  rw [Option.eq_none_iff_forall_ne_some]
  intro m found
  obtain ⟨x, hx, visible⟩ := reads.starts found
  exact visible (h x hx)

theorem findFrom_of_value_eq_none (reads : Reads p read value) {t : WrittenTag} (plain : t.IsPlain)
    (empty : value t = none) {ts : List WrittenTag} {c d : Cursor}
    (h : Leads c t.write.toList d) (hd : d.rest = following ts) : p.findFrom c = p.findFrom d := by
  refine Pattern.findFrom_skip h fun u e hu short => ?_
  obtain ⟨gap, split, later⟩ := hu.between h (Nat.le_of_lt short)
  have nonempty : gap ≠ [] := by
    rintro rfl
    simp [split] at short
  exact reads.other plain empty (remainder_of_suffix plain split nonempty) (hd ▸ later.rest)

theorem findAllFrom_of_rest_eq_nil (reads : Reads p read value) (n : Nat) (touching : Bool)
    {c : Cursor} (h : c.rest = []) : p.findAllFrom n touching c = [] := by
  cases n with
  | zero => rfl
  | succ n =>
    have empty := reads.matchAt_eq_none (c := c) (by simp [h])
    rw [Pattern.findAllFrom_succ reads.text, Pattern.findFrom_of_rest_eq_nil h, empty]

theorem findAllFrom_of_space (reads : Reads p read value) (n : Nat) (touching : Bool) {c d : Cursor}
    (h : Leads c [' '] d) : p.findAllFrom n touching c = p.findAllFrom n touching d := by
  cases n with
  | zero => rfl
  | succ n =>
    have empty := reads.matchAt_eq_none (c := c) (by simp [h.rest])
    rw [Pattern.findAllFrom_succ reads.text, Pattern.findAllFrom_succ reads.text,
      Pattern.findFrom_step h, empty, Option.none_or]

theorem map_findAllFrom (reads : Reads p read value) {ts : List WrittenTag}
    (plain : ∀ t ∈ ts, t.IsPlain) {n : Nat} (enough : ts.length < n) (touching : Bool) {c : Cursor}
    (edge : c.before.all (· == ' ') = true) (hc : c.rest = (writeAll ts).toList) :
    (p.findAllFrom n touching c).map read = ts.filterMap value := by
  induction ts generalizing n touching c with
  | nil =>
    rw [reads.findAllFrom_of_rest_eq_nil n touching hc]
    rfl
  | cons t ts ih =>
    rw [toList_writeAll_cons] at hc
    obtain ⟨d, through, hd⟩ := Leads.exists_of_rest hc
    obtain ⟨n, rfl⟩ : ∃ n', n = n' + 1 := Nat.exists_eq_add_one_of_ne_zero (by omega)
    have fewer : ts.length < n := Nat.lt_of_succ_lt_succ enough
    have behind {n : Nat} (enough : ts.length < n) (touching : Bool) :
        (p.findAllFrom n touching d).map read = ts.filterMap value := by
      cases ts with
      | nil =>
        rw [reads.findAllFrom_of_rest_eq_nil n touching hd]
        rfl
      | cons t' ts =>
        obtain ⟨e, space, he⟩ := Leads.exists_of_rest (show d.rest = [' '] ++ _ from hd)
        rw [reads.findAllFrom_of_space n touching space]
        exact ih (fun t ht => plain t (List.mem_cons_of_mem _ ht)) enough touching
          (by simp [space.before]) he
    cases hv : value t with
    | none =>
      -- No match begins in a tag of another kind, so one search goes on to the tags behind it.
      have skip := reads.findFrom_of_value_eq_none (plain t List.mem_cons_self) hv through hd
      have later := behind (Nat.lt_succ_of_lt fewer) touching
      rw [Pattern.findAllFrom_succ reads.text] at later ⊢
      rw [skip, List.filterMap_cons_none hv]
      exact later
    | some b =>
      obtain ⟨m, found, rfl, rfl⟩ := reads.own (plain t List.mem_cons_self) hv edge through hd
      rw [Pattern.findAllFrom_succ reads.text, Pattern.findFrom_of_matchAt found,
        List.filterMap_cons_some hv, List.map_cons, behind fewer]

theorem length_le_length_writeAll (ts : List WrittenTag) :
    ts.length ≤ (writeAll ts).toList.length + 1 := by
  induction ts with
  | nil => simp
  | cons t ts ih =>
    rw [toList_writeAll_cons]
    cases ts with
    | nil => simp
    | cons t' ts =>
      simp only [following, List.length_append, List.length_cons] at ih ⊢
      omega

theorem map_findAll (reads : Reads p read value) {ts : List WrittenTag}
    (plain : ∀ t ∈ ts, t.IsPlain) : (p.findAll (writeAll ts)).map read = ts.filterMap value := by
  have length := length_le_length_writeAll ts
  exact reads.map_findAllFrom plain (by omega) false rfl rfl

end Reads

namespace TagFamily

open WrittenTag

variable {c d : Cursor} {m : Match}

theorem edge_holds (space : c.before.all (· == ' ') = true) {x : Char} (hx : c.rest.head? = some x)
    (word : Text.isWord x = true) : Pattern.Anchor.wordEdge.holds c.before c.rest.head? = true := by
  have outside : (c.before.any Text.isWord) = false := by
    cases hb : c.before with
    | none => rfl
    | some y =>
      obtain rfl : y = ' ' := by simpa [hb] using space
      decide
  simp [Pattern.Anchor.holds, outside, hx, word]

theorem matchAt_eq_none_of_word {p : Pattern} {word : List Char} {ps : List Pattern}
    (shape : p = .all ([.anchor .wordEdge] ++ (word ++ ['(']).map .char ++ ps))
    (nonempty : word ≠ []) (noOpen : '(' ∉ word) (noClose : ')' ∉ word) (noSpace : ' ' ∉ word)
    {t : WrittenTag} (plain : t.IsPlain) (ends : ¬ word <:+ t.word.toList) {v : List Char}
    (r : t.Remainder v) {ts : List WrittenTag} (hc : c.rest = v ++ following ts) : p.matchAt c = none := by
  rw [Option.eq_none_iff_forall_ne_some]
  intro m found
  have opens := Pattern.prefix_of_matchAt_opening shape found
  rw [hc] at opens
  exact ends (suffix_word_of_opening plain r noOpen noClose noSpace nonempty opens)

theorem field?_eq_present? {group : Nat} {field : String} (h : m.group? group = some field)
    (trimmed : Text.trim field = field) : CommentTags.field? m group = present? field := by
  rw [CommentTags.field?, h, present?]
  by_cases empty : field = ""
  · subst empty
    simp [trimmed]
  · simp [empty, trimmed]

theorem field?_eq_none {group : Nat} (h : m.group? group = none) :
    CommentTags.field? m group = none := by
  rw [CommentTags.field?, h]
  rfl

end TagFamily

end GuidelineCompliance
