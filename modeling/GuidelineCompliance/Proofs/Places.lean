import GuidelineCompliance.Pattern.Match

/-! Places in one text. A place leads to a later one over the characters between them, and two
places that are reached from one place are ordered by how many characters were passed. -/

namespace GuidelineCompliance.Pattern

/-- The number of octets that characters take in UTF-8. -/
def octets : List Char → Nat
  | [] => 0
  | x :: cs => x.utf8Size + octets cs

theorem octets_append (cs ds : List Char) : octets (cs ++ ds) = octets cs + octets ds := by
  induction cs with
  | nil => simp [octets]
  | cons x cs ih => simp [octets, ih, Nat.add_assoc]

theorem octets_pos {cs : List Char} (h : cs ≠ []) : 0 < octets cs := by
  cases cs with
  | nil => exact absurd rfl h
  | cons x cs => exact Nat.add_pos_left x.utf8Size_pos _

theorem utf8ByteSize_ofList (cs : List Char) : (String.ofList cs).utf8ByteSize = octets cs := by
  induction cs with
  | nil => rfl
  | cons x cs ih =>
    have one : String.ofList (x :: cs) = String.singleton x ++ String.ofList cs := by
      rw [String.singleton_eq_ofList, ← String.ofList_append]
      rfl
    rw [one, String.utf8ByteSize_append, ih, octets]
    simp

theorem takeOctets_append (taken rest : List Char) :
    Cursor.takeOctets (octets taken) (taken ++ rest) = taken := by
  induction taken with
  | nil => cases rest <;> rfl
  | cons x taken ih =>
    have size := x.utf8Size_pos
    obtain ⟨n, hn⟩ : ∃ n, octets (x :: taken) = n + 1 :=
      ⟨x.utf8Size + octets taken - 1, by simp only [octets]; omega⟩
    have left : n + 1 - x.utf8Size = octets taken := by
      simp only [octets] at hn
      omega
    rw [hn, List.cons_append, Cursor.takeOctets, left, ih]

theorem Cursor.rest_ofText (cs : List Char) : (Cursor.ofText cs).rest = cs := rfl

/-- From a place over some characters to another place. -/
structure Leads (c : Cursor) (passed : List Char) (d : Cursor) : Prop where
  rest : c.rest = passed ++ d.rest
  offset : d.offset = c.offset + octets passed
  before : d.before = passed.getLast?.or c.before

namespace Leads

variable {b c d e : Cursor} {passed passed' : List Char}

theorem refl (c : Cursor) : Leads c [] c := ⟨rfl, rfl, rfl⟩

theorem step {n : Nat} {before : Option Char} {x : Char} {rest : List Char} :
    Leads ⟨n, before, x :: rest⟩ [x] ⟨n + x.utf8Size, some x, rest⟩ := ⟨rfl, rfl, rfl⟩

theorem trans (first : Leads c passed d) (second : Leads d passed' e) :
    Leads c (passed ++ passed') e where
  rest := by rw [first.rest, second.rest, List.append_assoc]
  offset := by rw [second.offset, first.offset, octets_append, Nat.add_assoc]
  before := by rw [second.before, first.before, List.getLast?_append, Option.or_assoc]

theorem exists_of_rest {rest : List Char} (h : c.rest = passed ++ rest) :
    ∃ d, Leads c passed d ∧ d.rest = rest :=
  ⟨⟨c.offset + octets passed, passed.getLast?.or c.before, rest⟩, ⟨h, rfl, rfl⟩, rfl⟩

theorem unique (h : Leads c passed d) (h' : Leads c passed e) : d = e := by
  obtain ⟨n, before, rest⟩ := d
  obtain ⟨n', before', rest'⟩ := e
  have rests : rest = rest' := List.append_cancel_left (h.rest.symm.trans h'.rest)
  have offsets : n = n' := h.offset.trans h'.offset.symm
  have befores : before = before' := h.before.trans h'.before.symm
  rw [rests, offsets, befores]

theorem chars (h : Leads c passed d) : Span.chars ⟨c, d⟩ = passed := by
  rw [Span.chars, h.offset, Nat.add_sub_cancel_left, h.rest, takeOctets_append]

theorem text (h : Leads c passed d) : Span.text ⟨c, d⟩ = String.ofList passed :=
  congrArg String.ofList h.chars

theorem text_toList {t : String} (h : Leads c t.toList d) : Span.text ⟨c, d⟩ = t :=
  h.text.trans String.ofList_toList

theorem between (h : Leads c passed d) (h' : Leads c passed' e)
    (le : passed.length ≤ passed'.length) :
    ∃ gap, passed' = passed ++ gap ∧ Leads d gap e := by
  have both : passed ++ d.rest = passed' ++ e.rest := h.rest.symm.trans h'.rest
  obtain ⟨gap, rfl⟩ : passed <+: passed' :=
    List.prefix_of_prefix_length_le ⟨d.rest, both⟩ (List.prefix_append passed' e.rest) le
  have rest : d.rest = gap ++ e.rest := by
    rw [List.append_assoc] at both
    exact List.append_cancel_left both
  obtain ⟨e', later, -⟩ := exists_of_rest rest
  have same := (h.trans later).unique h'
  exact ⟨gap, rfl, same ▸ later⟩

theorem offset_le (h : Leads c passed d) : c.offset ≤ d.offset := by
  rw [h.offset]
  exact Nat.le_add_right _ _

theorem offset_lt (h : Leads c passed d) (nonempty : passed ≠ []) : c.offset < d.offset := by
  rw [h.offset]
  exact Nat.lt_add_of_pos_right (octets_pos nonempty)

theorem length_rest_lt (h : Leads c passed d) (lt : c.offset < d.offset) :
    d.rest.length < c.rest.length := by
  rw [h.rest, List.length_append]
  cases passed with
  | nil => exact absurd lt (by simp [h.unique (.refl c)])
  | cons x passed =>
    rw [List.length_cons]
    omega

theorem of_offset_le (h : Leads c passed d) (h' : Leads c passed' e) (le : d.offset ≤ e.offset) :
    ∃ gap, Leads d gap e := by
  obtain ahead | behind := Nat.le_total passed.length passed'.length
  · obtain ⟨gap, -, leads⟩ := h.between h' ahead
    exact ⟨gap, leads⟩
  · obtain ⟨gap, -, leads⟩ := h'.between h behind
    cases gap with
    | nil => exact ⟨[], leads.unique (.refl e) ▸ .refl e⟩
    | cons x gap =>
      have past := leads.offset_lt (List.cons_ne_nil x gap)
      omega

theorem exists_between (h : Leads c (passed ++ passed') e) :
    ∃ d, Leads c passed d ∧ Leads d passed' e := by
  obtain ⟨d, first, -⟩ := exists_of_rest (h.rest.trans (List.append_assoc _ _ _))
  obtain ⟨gap, split, second⟩ := first.between h (by simp)
  obtain rfl : passed' = gap := List.append_cancel_left split
  exact ⟨d, first, second⟩

theorem exists_step {x : Char} (h : Leads c (x :: passed) e) :
    ∃ d, Leads c [x] d ∧ Leads d passed e :=
  exists_between (show Leads c ([x] ++ passed) e from h)

theorem skip?_eq (h : Leads c passed d) : c.skip? (octets passed) = some d := by
  induction passed generalizing c with
  | nil => rw [h.unique (.refl c), octets, Cursor.skip?, Cursor.skipIn]
  | cons x passed ih =>
    obtain ⟨e, first, later⟩ := h.exists_step
    obtain ⟨n, before, rest⟩ := c
    obtain ⟨rest', rfl⟩ : ∃ rest', rest = x :: rest' := ⟨e.rest, first.rest⟩
    obtain rfl := first.unique .step
    obtain ⟨k, size⟩ := Nat.exists_eq_add_one.mpr (octets_pos (List.cons_ne_nil x passed))
    have left : k + 1 - x.utf8Size = octets passed := by
      rw [← size, octets, Nat.add_sub_cancel_left]
    have whole : x.utf8Size ≤ k + 1 := size ▸ Nat.le_add_right _ _
    rw [size, Cursor.skip?, Cursor.skipIn, if_pos whole, left]
    exact ih later

theorem next (h : c.next? = some d) : ∃ x, Leads c [x] d := by
  obtain ⟨n, before, rest⟩ := c
  cases rest with
  | nil => cases h
  | cons x rest =>
    cases h
    exact ⟨x, step⟩

end Leads

end GuidelineCompliance.Pattern
