import GuidelineCompliance.Text.Blank
import GuidelineCompliance.Text.Digit
import GuidelineCompliance.Text.Word
import GuidelineCompliance.Text.CaseFold

/-! Sets of characters, as expressions. `mem` decides membership; nothing else is ever asked of
a set, so a set is no more than what it takes to decide that. -/

namespace GuidelineCompliance.Pattern

inductive CharSet where
  | none
  | all
  | range (low high : Char)
  | digit
  | blank
  | word
  | codes (ranges : List (Nat × Nat))
  | compl (s : CharSet)
  | union (s t : CharSet)
  | inter (s t : CharSet)
  | anyCase (s : CharSet)
  deriving DecidableEq, Repr

namespace CharSet

/-- `anyCase s` takes a character when `s` takes one of its case variants. -/
def mem : CharSet → Char → Bool
  | none, _ => false
  | all, _ => true
  | range low high, c => low ≤ c && c ≤ high
  | digit, c => Text.isDigit c
  | blank, c => Text.isBlank c
  | word, c => Text.isWord c
  | codes ranges, c => ranges.any fun r => r.1 ≤ c.toNat && c.toNat ≤ r.2
  | compl s, c => !s.mem c
  | union s t, c => s.mem c || t.mem c
  | inter s t, c => s.mem c && t.mem c
  | anyCase s, c => (Text.caseVariants c).any s.mem

def char (c : Char) : CharSet := range c c

def ascii : CharSet := range '\x00' '\x7f'

def asciiDigit : CharSet := range '0' '9'

def asciiBlank : CharSet := union (range '\t' '\r') (range ' ' ' ')

def asciiLetter : CharSet := union (range 'a' 'z') (range 'A' 'Z')

def asciiWord : CharSet := union (union asciiLetter asciiDigit) (range '_' '_')

def ofList (cs : List Char) : CharSet := cs.foldl (fun s c => union s (char c)) none

def noneOf (cs : List Char) : CharSet := compl (ofList cs)

def diff (s t : CharSet) : CharSet := inter s (compl t)

def symmDiff (s t : CharSet) : CharSet := union (diff s t) (diff t s)

@[simp] theorem mem_char (c d : Char) : (char c).mem d = (d == c) := by
  by_cases h : d = c
  · subst h; simp [char, mem]
  · have : ¬ (c ≤ d ∧ d ≤ c) := fun ⟨h₁, h₂⟩ => h (Char.le_antisymm h₂ h₁)
    simp only [char, mem, beq_eq_false_iff_ne.mpr h]
    simpa using this

private theorem mem_foldl_union (cs : List Char) (s : CharSet) (d : Char) :
    (cs.foldl (fun s c => union s (char c)) s).mem d = (s.mem d || cs.contains d) := by
  induction cs generalizing s with
  | nil => simp
  | cons c cs ih => rw [List.foldl_cons, ih, mem, mem_char, List.contains_cons, Bool.or_assoc]

theorem mem_ofList (cs : List Char) (d : Char) : (ofList cs).mem d = cs.contains d := by
  rw [ofList, mem_foldl_union, mem, Bool.false_or]

@[simp] theorem mem_noneOf (cs : List Char) (d : Char) :
    (noneOf cs).mem d = !cs.contains d := by
  rw [noneOf, mem, mem_ofList]

end CharSet

end GuidelineCompliance.Pattern
