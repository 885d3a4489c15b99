import GuidelineCompliance.Catalog
import GuidelineCompliance.Proofs.Numerals
import GuidelineCompliance.Proofs.WordRuns

/-! Runs of patterns along digits and the dividers between them. The number of a guideline has up to
three parts, which are runs of digits of any script. -/

namespace GuidelineCompliance

namespace Pattern

open Text (Digits)

variable {α : Type} {k : Follow α} {c d : Cursor} {caps : Captures} {r : α} {ps : List Pattern}
  {n : List Char}

theorem run_digits_of_leads {s : CharSet} {mid : Char} (digits : Digits n) (mem : s.mem mid = true)
    (other : Text.isDigit mid = false) (h : Leads c (n ++ [mid]) d)
    (done : run (all ps) k d caps = some r) :
    run (all (many1 .digit :: .set s :: ps)) k c caps = some r := by
  obtain ⟨e, part, divider⟩ := h.exists_between
  rw [run_all_cons]
  refine run_many1_of_leads digits.nonempty part digits.digit (stop_of_leads divider rfl other) ?_
  rw [run_all_cons]
  exact run_set_eq_some.mpr ⟨mid, d, mem, divider, done⟩

theorem run_digits_eq_none {mid x : Char} (digits : Digits n) (h : Leads c n d)
    (next : d.rest.head? = some x) (stop : Text.isDigit x = false)
    (other : Text.isDigit mid = false) (absent : x ≠ mid) :
    run (all (many1 .digit :: char mid :: ps)) k c caps = none := by
  rw [Option.eq_none_iff_forall_ne_some]
  intro r found
  rw [run_all_cons] at found
  obtain ⟨taken, e, -, leads, digit, found⟩ := exists_leads_of_run_many1 found
  rw [run_all_cons] at found
  obtain ⟨f, divider, -⟩ := run_char_eq_some.mp found
  obtain rfl : taken = n := longest_unique digit digits.digit (stop_of_leads divider rfl other)
    (stop_of_head? next stop) (leads.rest.symm.trans h.rest)
  obtain rfl := leads.unique h
  exact absent (by simpa [divider.rest] using next.symm)

end Pattern

namespace Catalog

open Pattern
open Text (Digits)

abbrev NumberPart := { cs : List Char // Digits cs }

inductive GuidelineNumber where
  | one (n : NumberPart)
  | two (n m : NumberPart)
  | three (n m l : NumberPart)

def GuidelineNumber.chars : GuidelineNumber → List Char
  | one n => n.1
  | two n m => n.1 ++ ['.'] ++ m.1
  | three n m l => n.1 ++ ['-'] ++ (m.1 ++ ['-'] ++ l.1)

variable {α : Type} {k : Follow α} {c d : Cursor} {caps : Captures} {r : α}

theorem run_number_of_leads (number : GuidelineNumber) {x : Char} (h : Leads c number.chars d)
    (next : d.rest.head? = some x) (stop : Text.isDigit x = false) (ends : x ≠ '-' ∧ x ≠ '.')
    (done : k d caps = some r) : run numberPattern k c caps = some r := by
  have ended : ∀ y ∈ d.rest.head?, CharSet.digit.mem y = false := stop_of_head? next stop
  have hyphen : Text.isDigit '-' = false := by decide
  have point : Text.isDigit '.' = false := by decide
  rw [numberPattern, run_any_cons, run_any_cons]
  cases number with
  | one n =>
    rw [run_digits_eq_none n.2 h next stop hyphen ends.1, Option.none_or,
      run_digits_eq_none n.2 h next stop point ends.2, Option.none_or]
    exact run_many1_of_leads n.2.nonempty h n.2.digit ended done
  | two n m =>
    obtain ⟨e, first, second⟩ := h.exists_between
    obtain ⟨b, major, divider⟩ := first.exists_between
    have last : run (many1 .digit) k e caps = some r :=
      run_many1_of_leads m.2.nonempty second m.2.digit ended done
    have two : run (all [many1 .digit, char '.', many1 .digit]) k c caps = some r :=
      run_digits_of_leads n.2 (by decide) point first last
    have behind : b.rest.head? = some '.' := by simp [divider.rest]
    rw [run_digits_eq_none n.2 major behind point hyphen (by decide), Option.none_or, two,
      Option.some_or]
  | three n m l =>
    obtain ⟨e, first, later⟩ := h.exists_between
    obtain ⟨f, second, third⟩ := later.exists_between
    have last : run (many1 .digit) k f caps = some r :=
      run_many1_of_leads l.2.nonempty third l.2.digit ended done
    have two : run (all [many1 .digit, char '-', many1 .digit]) k e caps = some r :=
      run_digits_of_leads m.2 (by decide) hyphen second last
    have three : run (all [many1 .digit, char '-', many1 .digit, char '-', many1 .digit]) k c caps =
        some r := run_digits_of_leads n.2 (by decide) hyphen first two
    rw [three, Option.some_or]

end Catalog

end GuidelineCompliance
