import GuidelineCompliance.Text.Blank
import Mathlib.Data.List.TakeWhile

/-! Trimmed text. Trimming takes blanks away at both ends, and a text that it leaves as it is has
none there. -/

namespace GuidelineCompliance.Text

theorem mem_of_mem_trimChars {x : Char} {cs : List Char} (h : x ∈ trimChars cs) : x ∈ cs := by
  have left : x ∈ (trimLeft cs).reverse :=
    (List.dropWhile_sublist _).mem (List.mem_reverse.mp h)
  exact (List.dropWhile_sublist _).mem (List.mem_reverse.mp left)

theorem mem_of_mem_trim {x : Char} {s : String} (h : x ∈ (trim s).toList) : x ∈ s.toList :=
  mem_of_mem_trimChars (by simpa [trim] using h)

theorem trimRight_sublist (cs : List Char) : (trimRight cs).Sublist cs := by
  have back := (List.dropWhile_sublist isBlank (l := cs.reverse)).reverse
  rwa [List.reverse_reverse] at back

theorem isBlank_head_of_trimLeft_eq {cs : List Char} (h : trimLeft cs = cs) :
    ∀ x ∈ cs.head?, isBlank x = false := by
  intro x hx
  have head := List.dropWhile_eq_self_iff.mp h
  cases cs with
  | nil => cases hx
  | cons y cs =>
    cases hx
    simpa using head

variable {s : String}

theorem trim_of_forall (h : ∀ x ∈ s.toList, isBlank x = false) : trim s = s := by
  have stays {cs : List Char} (free : ∀ x ∈ cs, isBlank x = false) : cs.dropWhile isBlank = cs :=
    List.dropWhile_eq_self_iff.mpr fun nonempty => by simp [free _ (List.getElem_mem nonempty)]
  have left : trimLeft s.toList = s.toList := stays h
  have right : s.toList.reverse.dropWhile isBlank = s.toList.reverse :=
    stays fun x hx => h x (List.mem_reverse.mp hx)
  rw [trim, trimChars, left, trimRight, right, List.reverse_reverse, String.ofList_toList]

theorem trimLeft_of_trim_eq (h : trim s = s) : trimLeft s.toList = s.toList := by
  have whole : trimRight (trimLeft s.toList) = s.toList := by
    simpa [trim, trimChars] using congrArg String.toList h
  have left : (trimLeft s.toList).Sublist s.toList := List.dropWhile_sublist _
  have right := (trimRight_sublist (trimLeft s.toList)).length_le
  rw [whole] at right
  exact left.eq_of_length_le right

theorem isBlank_head_of_trim_eq (h : trim s = s) : ∀ x ∈ s.toList.head?, isBlank x = false :=
  isBlank_head_of_trimLeft_eq (trimLeft_of_trim_eq h)

theorem isBlank_last_of_trim_eq (h : trim s = s) :
    ∀ x ∈ s.toList.getLast?, isBlank x = false := by
  have whole : trimRight (trimLeft s.toList) = s.toList := by
    simpa [trim, trimChars] using congrArg String.toList h
  rw [trimLeft_of_trim_eq h, trimRight, List.reverse_eq_iff] at whole
  rw [← List.head?_reverse]
  exact isBlank_head_of_trimLeft_eq whole

end GuidelineCompliance.Text
