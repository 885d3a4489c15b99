import GuidelineCompliance.Link
import Mathlib.Data.List.Infix

/-! The spellings of a link. A scheme may be written with none, one or both of the slashes behind
its colon, and is given those that are missing. A link that has both is left alone only if its later
colons have two slashes behind them as well: otherwise the first one that has not, such as that of a
port, is given them. -/

namespace GuidelineCompliance.Link

def Finished (cs : List Char) : Prop :=
  ∀ before rest, cs = before ++ ':' :: rest → ['/', '/'] <+: rest

theorem finished_nil : Finished [] := by
  intro before rest split
  simp at split

theorem finished_cons_of_ne {c : Char} (h : c ≠ ':') (cs : List Char) :
    Finished (c :: cs) ↔ Finished cs := by
  constructor
  · rintro finished before rest rfl
    exact finished (c :: before) rest rfl
  · intro finished before rest split
    cases before with
    | nil =>
      obtain ⟨same, -⟩ := List.cons.inj split
      exact absurd same h
    | cons d before =>
      obtain ⟨-, later⟩ := List.cons.inj split
      exact finished before rest later

theorem finished_cons_colon (cs : List Char) :
    Finished (':' :: cs) ↔ ['/', '/'] <+: cs ∧ Finished cs := by
  constructor
  · intro finished
    refine ⟨finished [] cs rfl, ?_⟩
    rintro before rest rfl
    exact finished (':' :: before) rest rfl
  · rintro ⟨slashes, finished⟩ before rest split
    cases before with
    | nil =>
      obtain ⟨-, rfl⟩ := List.cons.inj split
      exact slashes
    | cons d before =>
      obtain ⟨-, later⟩ := List.cons.inj split
      exact finished before rest later

theorem restoreChars_cons_of_ne {c : Char} (h : c ≠ ':') (cs : List Char) :
    restoreChars (c :: cs) = c :: restoreChars cs := by
  simp [restoreChars, h]

theorem restoreChars_append {scheme : List Char} (h : ':' ∉ scheme) (cs : List Char) :
    restoreChars (scheme ++ cs) = scheme ++ restoreChars cs := by
  induction scheme with
  | nil => rfl
  | cons c scheme ih =>
    have other : c ≠ ':' := (List.ne_of_not_mem_cons h).symm
    rw [List.cons_append, restoreChars_cons_of_ne other, ih (List.not_mem_of_not_mem_cons h),
      List.cons_append]

theorem restoreChars_two_slashes (cs : List Char) :
    restoreChars (':' :: '/' :: '/' :: cs) = ':' :: '/' :: '/' :: restoreChars cs := by
  rw [restoreChars, restoreChars_cons_of_ne (by decide)]

theorem restoreChars_one_slash {cs : List Char} (h : cs.head? ≠ some '/') :
    restoreChars (':' :: '/' :: cs) = ':' :: '/' :: '/' :: cs :=
  restoreChars.eq_3 cs fun _ same => h (same ▸ rfl)

theorem restoreChars_no_slash {cs : List Char} (h : cs.head? ≠ some '/') :
    restoreChars (':' :: cs) = ':' :: '/' :: '/' :: cs :=
  restoreChars.eq_4 cs (fun _ same => h (same ▸ rfl)) fun _ same => h (same ▸ rfl)

theorem restoreChars_eq_self_iff (cs : List Char) : restoreChars cs = cs ↔ Finished cs := by
  fun_induction restoreChars cs with
  | case1 => simp [finished_nil]
  | case2 rest ih =>
    have slash : '/' ≠ ':' := by decide
    rw [finished_cons_colon, finished_cons_of_ne slash, ← ih]
    simp
  | case3 rest h =>
    have longer : ':' :: '/' :: '/' :: rest ≠ ':' :: '/' :: rest := by simp
    refine iff_of_false longer fun finished => ?_
    obtain ⟨more, split⟩ := ((finished_cons_colon _).mp finished).1
    exact h more (by simpa using split.symm)
  | case4 rest h _ =>
    have longer : ':' :: '/' :: '/' :: rest ≠ ':' :: rest := by
      intro same
      have lengths := congrArg List.length same
      simp only [List.length_cons] at lengths
      omega
    refine iff_of_false longer fun finished => ?_
    obtain ⟨more, split⟩ := ((finished_cons_colon _).mp finished).1
    exact h more split.symm
  | case5 c rest _ _ h ih =>
    rw [finished_cons_of_ne h, ← ih]
    simp

theorem restore_eq_iff {link link' : String} :
    restore link = link' ↔ restoreChars link.toList = link'.toList := by
  rw [restore, String.ext_iff, String.toList_ofList]

/-- A link without the slashes of its scheme, or with one of them, is given both. A link that has
both stays as it is exactly when every later colon has two slashes behind it. -/
theorem restore_spellings {scheme rest : String} (hs : ':' ∉ scheme.toList)
    (hr : rest.toList.head? ≠ some '/') :
    restore (scheme ++ ":" ++ rest) = scheme ++ "://" ++ rest ∧
      restore (scheme ++ ":/" ++ rest) = scheme ++ "://" ++ rest ∧
      (restore (scheme ++ "://" ++ rest) = scheme ++ "://" ++ rest ↔ Finished rest.toList) := by
  have written (mark : String) : (scheme ++ mark ++ rest).toList =
      scheme.toList ++ (mark.toList ++ rest.toList) := by simp
  simp only [restore_eq_iff, written, restoreChars_append hs, List.append_cancel_left_eq]
  refine ⟨restoreChars_no_slash hr, restoreChars_one_slash hr, ?_⟩
  rw [← restoreChars_eq_self_iff]
  constructor
  · intro kept
    have whole := (restoreChars_two_slashes rest.toList).symm.trans kept
    simpa using whole
  · intro kept
    have whole := restoreChars_two_slashes rest.toList
    rw [kept] at whole
    exact whole

theorem restore_spellings_of_port :
    ':' ∉ "http".toList ∧ "host:8080".toList.head? ≠ some '/' ∧
      restore "http:host:8080" = "http://host:8080" ∧
      restore "http:/host:8080" = "http://host:8080" ∧
      (restore "http://host:8080" = "http://host:8080" ↔ Finished "host:8080".toList) := by
  have hs : ':' ∉ "http".toList := by decide
  have hr : "host:8080".toList.head? ≠ some '/' := by decide
  have bare : "http" ++ ":" ++ "host:8080" = "http:host:8080" := by decide
  have single : "http" ++ ":/" ++ "host:8080" = "http:/host:8080" := by decide
  have whole : "http" ++ "://" ++ "host:8080" = "http://host:8080" := by decide
  have spellings := restore_spellings hs hr
  rw [bare, single, whole] at spellings
  exact ⟨hs, hr, spellings⟩

theorem not_forall_restore_spellings :
    ¬ ∀ scheme rest : String, ':' ∉ scheme.toList → rest.toList.head? ≠ some '/' →
      restore (scheme ++ ":" ++ rest) = scheme ++ "://" ++ rest ∧
        restore (scheme ++ ":/" ++ rest) = scheme ++ "://" ++ rest ∧
        restore (scheme ++ "://" ++ rest) = scheme ++ "://" ++ rest := by
  intro agree
  obtain ⟨-, -, kept⟩ := agree "http" "host:8080" (by decide) (by decide)
  have port : restore ("http" ++ "://" ++ "host:8080") = "http://host://8080" := by decide
  rw [port] at kept
  exact absurd kept (by decide)

end GuidelineCompliance.Link
