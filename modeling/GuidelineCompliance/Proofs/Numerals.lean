import GuidelineCompliance.Text.Digit

/-! Numerals. A number is written in ASCII digits, and reading them gives the number back. A pattern
takes a run of digits of any script. -/

namespace GuidelineCompliance.Text

theorem isDigit_of_mem_toString {n : Nat} {x : Char} (h : x ∈ (toString n).toList) :
    x.isDigit = true := by
  rw [Nat.toString_eq_repr, Nat.toList_repr] at h
  exact Nat.isDigit_of_mem_toDigits (by decide) (by decide) h

theorem toList_toString_ne_nil (n : Nat) : (toString n).toList ≠ [] := by
  rw [Nat.toString_eq_repr, Nat.toList_repr]
  exact Nat.toDigits_ne_nil

theorem digitsValue_toString (n : Nat) : digitsValue (toString n).toList = n := by
  rw [Nat.toString_eq_repr, Nat.toList_repr]
  exact Nat.ofDigitChars_toDigits (by decide) (by decide)

theorem readNumber_toString_eq (n bound : Nat) :
    readNumber bound (toString n).toList = if n < bound then some n else none := by
  have digits : (toString n).toList.all Char.isDigit = true :=
    List.all_eq_true.mpr fun x hx => isDigit_of_mem_toString hx
  simp only [readNumber, digitsValue_toString, digits, toList_toString_ne_nil n, ne_eq,
    not_false_iff, true_and]

theorem readNumber_toString {n bound : Nat} (h : n < bound) :
    readNumber bound (toString n).toList = some n := by
  rw [readNumber_toString_eq, if_pos h]

/-- A run of digits of any script. -/
structure Digits (cs : List Char) : Prop where
  nonempty : cs ≠ []
  digit : ∀ x ∈ cs, isDigit x = true

instance (cs : List Char) : Decidable (Digits cs) :=
  decidable_of_iff (cs ≠ [] ∧ cs.all isDigit = true)
    ⟨fun h => ⟨h.1, List.all_eq_true.mp h.2⟩,
      fun h => ⟨h.nonempty, List.all_eq_true.mpr h.digit⟩⟩

theorem Digits.not_mem {cs : List Char} (h : Digits cs) {x : Char} (other : isDigit x = false) :
    x ∉ cs := fun mem => by
  simp [h.digit x mem] at other

theorem isDigit_of_ascii {x : Char} (h : x.isDigit = true) : isDigit x = true := by
  simp [isDigit, h]

theorem digits_toString (n : Nat) : Digits (toString n).toList :=
  ⟨toList_toString_ne_nil n, fun _ hx => isDigit_of_ascii (isDigit_of_mem_toString hx)⟩

end GuidelineCompliance.Text
