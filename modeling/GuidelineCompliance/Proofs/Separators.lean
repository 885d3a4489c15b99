import GuidelineCompliance.Text.Blank

/-! Separators. Splitting a text at its separators leaves pieces without them, and a text without
the separator that stands at the front of two parts, or somewhere in them, stands in one of the
two. -/

namespace GuidelineCompliance.Text

section Split

theorem splitOn_eq_splitOn (sep : Char) (cs : List Char) : splitOn sep cs = cs.splitOn sep := by
  induction cs with
  | nil => rfl
  | cons c cs ih =>
    rw [List.splitOn_cons_eq_if_modifyHead]
    by_cases h : c = sep
    · subst h
      rw [splitOn_cons_self, ih, if_pos (beq_self_eq_true c)]
    · obtain ⟨piece, pieces, split⟩ := List.exists_cons_of_ne_nil (List.splitOn_ne_nil sep cs)
      rw [splitOn_cons_of_ne h, ih, if_neg (by simpa using h), split, consFirst,
        List.modifyHead_cons]

theorem splitOn_ne_nil (sep : Char) (cs : List Char) : splitOn sep cs ≠ [] := by
  rw [splitOn_eq_splitOn]
  exact List.splitOn_ne_nil sep cs

theorem getLast?_eq_sep_of_splitOn {sep : Char} {cs : List Char}
    (h : (splitOn sep cs).getLast? = some []) : cs = [] ∨ cs.getLast? = some sep := by
  induction cs with
  | nil => exact Or.inl rfl
  | cons c cs ih =>
    right
    obtain ⟨piece, pieces, split⟩ := List.exists_cons_of_ne_nil (splitOn_ne_nil sep cs)
    by_cases hc : c = sep
    · subst hc
      rw [splitOn_cons_self, split, List.getLast?_cons_cons, ← split] at h
      obtain rfl | last := ih h
      · rfl
      · rw [List.getLast?_cons, last]
        rfl
    · rw [splitOn_cons_of_ne hc, split, consFirst] at h
      cases pieces with
      | nil => simp at h
      | cons next pieces =>
        rw [List.getLast?_cons_cons] at h
        obtain rfl | last := ih (by rw [split, List.getLast?_cons_cons, h])
        · simp [splitOn] at split
        · rw [List.getLast?_cons, last]
          rfl

theorem splitOn_append_cons {sep : Char} {w : List Char} (free : sep ∉ w) (rest : List Char) :
    splitOn sep (w ++ sep :: rest) = w :: splitOn sep rest := by
  rw [splitOn_eq_splitOn, splitOn_eq_splitOn]
  exact List.splitOn_append_cons_self_of_not_mem free rest

theorem not_mem_of_mem_splitOn {sep : Char} {cs piece : List Char} (h : piece ∈ splitOn sep cs) :
    sep ∉ piece := by
  induction cs generalizing piece with
  | nil =>
    obtain rfl : piece = [] := by simpa [splitOn] using h
    exact List.not_mem_nil
  | cons c cs ih =>
    by_cases same : c = sep
    · subst same
      rw [splitOn_cons_self] at h
      obtain rfl | later := List.mem_cons.mp h
      · exact List.not_mem_nil
      · exact ih later
    · rw [splitOn_cons_of_ne same] at h
      obtain ⟨first, pieces, split⟩ := List.exists_cons_of_ne_nil (splitOn_ne_nil sep cs)
      rw [split, consFirst] at h
      obtain rfl | later := List.mem_cons.mp h
      · exact List.not_mem_cons_of_ne_of_not_mem (Ne.symm same) (ih (split ▸ List.mem_cons_self))
      · exact ih (split ▸ List.mem_cons_of_mem _ later)

end Split

variable {x : Char} {l as bs : List Char}

theorem prefix_of_prefix_append_cons (free : x ∉ l) (h : l <+: as ++ x :: bs) : l <+: as := by
  obtain short | long := Nat.le_total l.length as.length
  · exact List.prefix_of_prefix_length_le h (List.prefix_append _ _) short
  · obtain ⟨more, rfl⟩ := List.prefix_of_prefix_length_le (List.prefix_append _ _) h long
    cases more with
    | nil => simp
    | cons y more =>
      have same := (List.prefix_append_right_inj as).mp h
      obtain ⟨rfl, -⟩ := List.cons_prefix_cons.mp same
      simp at free

theorem infix_of_infix_append_cons (free : x ∉ l) (h : l <:+: as ++ x :: bs) :
    l <:+: as ∨ l <:+: bs := by
  induction as with
  | nil =>
    obtain front | later := List.infix_cons_iff.mp h
    · have empty : l <+: [] := prefix_of_prefix_append_cons free front
      exact Or.inl empty.isInfix
    · exact Or.inr later
  | cons a as ih =>
    obtain front | later := List.infix_cons_iff.mp h
    · have short : l <+: a :: as := prefix_of_prefix_append_cons free front
      exact Or.inl short.isInfix
    · exact (ih later).imp_left List.infix_cons

theorem infix_of_cons_infix_append (free : x ∉ as) (h : x :: l <:+: as ++ bs) : x :: l <:+: bs := by
  induction as with
  | nil => exact h
  | cons a as ih =>
    rw [List.mem_cons, not_or] at free
    obtain front | later := List.infix_cons_iff.mp h
    · exact absurd (List.cons_prefix_cons.mp front).1 free.1
    · exact ih free.2 later

theorem infix_of_cons_infix_append_cons {y : Char} (free : x ∉ l) (mem : y ∈ l) (absent : y ∉ bs)
    (h : x :: l <:+: as ++ x :: bs) : x :: l <:+: as := by
  induction as with
  | nil =>
    obtain front | later := List.infix_cons_iff.mp h
    · exact absurd ((List.cons_prefix_cons.mp front).2.subset mem) absent
    · exact absurd (later.subset (List.mem_cons_of_mem x mem)) absent
  | cons a as ih =>
    obtain front | later := List.infix_cons_iff.mp h
    · obtain ⟨rfl, within⟩ := List.cons_prefix_cons.mp front
      have inside : l <+: as := prefix_of_prefix_append_cons free within
      exact (List.cons_prefix_cons.mpr ⟨rfl, inside⟩).isInfix
    · exact (ih later).trans (List.suffix_cons a as).isInfix

theorem eq_of_prefix_append_cons (free : x ∉ l) (free' : x ∉ as)
    (h : l ++ [x] <+: as ++ x :: bs) : l = as := by
  have left : l <+: as := prefix_of_prefix_append_cons free ((List.prefix_append l [x]).trans h)
  obtain ⟨more, rfl⟩ := left
  rw [List.append_assoc, List.prefix_append_right_inj] at h
  cases more with
  | nil => simp
  | cons y more =>
    obtain ⟨rfl, -⟩ := List.cons_prefix_cons.mp h
    simp at free'

end GuidelineCompliance.Text
