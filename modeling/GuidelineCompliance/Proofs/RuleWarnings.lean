import GuidelineCompliance.Proofs.GuidelineNumbers
import GuidelineCompliance.Proofs.RuleNumbers
import GuidelineCompliance.Proofs.Separators

/-! Warnings as Cppcheck writes them. A warning is read as it is written only if its file name holds
no colon and its message opens no bracket. The file name is taken to end at its first colon, so the
colon behind the letter of a drive is one too many. -/

namespace GuidelineCompliance.Cppcheck

open Pattern
open Text (Digits)

/-- A text that names a place of its own. -/
def HoldsPlace (cs : List Char) : Prop :=
  ∃ file line, '[' ∉ file ∧ ']' ∉ file ∧ Digits line ∧ place file line <:+: cs

structure WrittenWarning where
  file : String
  line : Nat
  message : String
  major : String
  minor : String

namespace WrittenWarning

structure Proper (w : WrittenWarning) : Prop where
  file : ∀ x ∈ w.file.toList, x ≠ '[' ∧ x ≠ ']'
  line : w.line < 18446744073709551616
  unmarked : ¬ "[misra-c2012-".toList <:+: w.message.toList
  noPlace : ¬ HoldsPlace w.message.toList
  major : Digits w.major.toList
  minor : Digits w.minor.toList

def write (w : WrittenWarning) : String :=
  "[" ++ w.file ++ ":" ++ toString w.line ++ "]" ++ w.message ++ "[misra-c2012-" ++ w.major ++
    "." ++ w.minor ++ "]"

def violation (w : WrittenWarning) : Violation :=
  ⟨w.file, w.line, "Rule " ++ w.major ++ "." ++ w.minor⟩

def number (w : WrittenWarning) : List Char := w.major.toList ++ '.' :: w.minor.toList

theorem toList_write (w : WrittenWarning) :
    w.write.toList = place w.file.toList (toString w.line).toList ++
      (w.message.toList ++ ruleTag w.number) := by
  simp [write, place, ruleTag, number, openMark_eq]

theorem violation_eq (w : WrittenWarning) :
    w.violation = ⟨w.file, w.line, ruleId (String.ofList w.number)⟩ := by
  rw [violation, ruleId, number]
  congr 1
  simp [← String.toList_inj]

end WrittenWarning

section Read

variable {α : Type} {k : Follow α} {caps : Captures} {r : α} {c d : Cursor} {m : Match}
  {w : WrittenWarning}

theorem run_number_of_leads {major minor : List Char} {mid : Char} {s : CharSet}
    (first : Digits major) (second : Digits minor) (mem : s.mem mid = true)
    (other : Text.isDigit mid = false) (h : Leads c (major ++ mid :: minor) d)
    (stop : ∀ x ∈ d.rest.head?, CharSet.digit.mem x = false) (done : k d caps = some r) :
    run (all [many1 .digit, .set s, many1 .digit]) k c caps = some r := by
  rw [List.append_cons] at h
  obtain ⟨e, front, back⟩ := h.exists_between
  have last : run (many1 .digit) k e caps = some r :=
    run_many1_of_leads second.nonempty back second.digit stop done
  exact run_digits_of_leads first mem other front last

theorem exists_matchAt_warning (proper : w.Proper) (noColon : ':' ∉ w.file.toList)
    (noOpen : '[' ∉ w.message.toList) (h : Leads c w.write.toList d) :
    ∃ m, warningPattern.matchAt c = some m ∧ m.group 1 = w.file ∧ m.group 2 = toString w.line ∧
      m.group 3 = String.ofList w.number := by
  have digits := Text.digits_toString w.line
  have text : w.write.toList = ['['] ++ (w.file.toList ++ ([':'] ++ ((toString w.line).toList ++
      ([']'] ++ (w.message.toList ++ ("[misra-c2012-".toList ++ (w.number ++ [']']))))))) := by
    rw [w.toList_write, place, ruleTag, openMark_eq]
    simp
  rw [text] at h
  obtain ⟨c₁, open₁, h⟩ := h.exists_between
  obtain ⟨c₂, file, h⟩ := h.exists_between
  obtain ⟨c₃, colon, h⟩ := h.exists_between
  obtain ⟨c₄, line, h⟩ := h.exists_between
  obtain ⟨c₅, close₁, h⟩ := h.exists_between
  obtain ⟨c₆, message, h⟩ := h.exists_between
  obtain ⟨c₇, marked, h⟩ := h.exists_between
  obtain ⟨c₈, number, close₂⟩ := h.exists_between
  refine ⟨⟨⟨c, d⟩, [(3, ⟨c₇, c₈⟩), (2, ⟨c₃, c₄⟩), (1, ⟨c₁, c₂⟩)]⟩, ?_, ?_, ?_, ?_⟩
  · rw [matchAt, warningPattern, run_all_cons]
    refine run_char_eq_some.mpr ⟨c₁, open₁, ?_⟩
    rw [run_all_cons, run_capture]
    refine run_many_of_leads file (forall_mem_noneOf.mpr noColon)
      (stop_of_leads colon rfl (by decide)) ?_
    rw [run_all_cons]
    refine run_char_eq_some.mpr ⟨c₃, colon, ?_⟩
    rw [run_all_cons, run_capture]
    refine run_many1_of_leads digits.nonempty line digits.digit
      (stop_of_leads close₁ rfl (by decide)) ?_
    rw [run_all_cons]
    refine run_char_eq_some.mpr ⟨c₅, close₁, ?_⟩
    rw [run_all_cons]
    refine run_many_of_leads message (forall_mem_noneOf.mpr noOpen)
      (stop_of_leads marked rfl (by decide)) ?_
    rw [run_all_cons]
    refine run_lit_eq_some.mpr ⟨c₇, marked, ?_⟩
    rw [run_all_cons, run_capture]
    refine run_number_of_leads proper.major proper.minor (by decide) (by decide) number
      (stop_of_leads close₂ rfl (by decide)) ?_
    exact run_char_eq_some.mpr ⟨d, close₂, rfl⟩
  · exact file.text_toList
  · exact line.text_toList
  · exact number.text

theorem noOpen_of_parts (proper : w.Proper) {line front number rest : List Char}
    (digits : Digits line) (quiet : '[' ∉ front)
    (h : w.write.toList = place w.file.toList line ++ (front ++ ruleTag number) ++ rest) :
    '[' ∉ w.message.toList := by
  intro mem
  have digits' := Text.digits_toString w.line
  have noDigit : Text.isDigit ']' = false := by decide
  obtain ⟨before, behind, split, free⟩ := List.eq_append_cons_of_mem mem
  have lines : line ++ ']' :: (front ++ (ruleTag number ++ rest)) =
      (toString w.line).toList ++ ']' :: (w.message.toList ++ ruleTag w.number) := by
    simpa [w.toList_write, place, eq_comm] using h
  have sameLine : line = (toString w.line).toList :=
    Text.eq_of_prefix_append_cons (digits.not_mem noDigit) (digits'.not_mem noDigit)
      ⟨front ++ (ruleTag number ++ rest), by rw [← lines, ← List.append_cons]⟩
  rw [sameLine] at lines
  have fronts : front ++ '[' :: (ruleMark ++ (number ++ ']' :: rest)) =
      before ++ '[' :: (behind ++ ruleTag w.number) := by
    simpa [split, ruleTag] using lines
  have sameFront : front = before := Text.eq_of_prefix_append_cons quiet free
    ⟨ruleMark ++ (number ++ ']' :: rest), by rw [← fronts, ← List.append_cons]⟩
  rw [sameFront] at fronts
  have marked : ruleMark <+: behind ++ ruleTag w.number :=
    ⟨number ++ ']' :: rest, (List.cons.inj (List.append_cancel_left fronts)).2⟩
  obtain ⟨more, rfl⟩ := Text.prefix_of_prefix_append_cons (by decide) marked
  exact proper.unmarked ⟨before, more, by simp [split, openMark_eq]⟩

/-- A match that begins behind the start of the warning begins with a place in the message. -/
theorem holdsPlace_of_later (proper : w.Proper) {x : Char} {passed line rest : List Char}
    (digits : Digits line)
    (h : w.write.toList = x :: passed ++ (place w.file.toList line ++ rest)) :
    HoldsPlace w.message.toList := by
  have noOpen : '[' ∉ w.file.toList := fun mem => (proper.file _ mem).1 rfl
  have noClose : ']' ∉ w.file.toList := fun mem => (proper.file _ mem).2 rfl
  have noDigit : Text.isDigit '[' = false ∧ Text.isDigit ':' = false := by decide
  have line' : '[' ∉ (toString w.line).toList := (Text.digits_toString w.line).not_mem noDigit.1
  rw [w.toList_write, place, List.cons_append, List.cons_append] at h
  have whole := (List.cons.inj h).2
  have here : place w.file.toList line <:+:
      (w.file.toList ++ ':' :: ((toString w.line).toList ++ [']'])) ++
        (w.message.toList ++ ruleTag w.number) := ⟨passed, rest, by rw [whole, List.append_assoc]⟩
  have free : '[' ∉ w.file.toList ++ ':' :: ((toString w.line).toList ++ [']']) := by
    simp only [List.mem_append, List.mem_cons, not_or]
    exact ⟨noOpen, by decide, line', by decide, List.not_mem_nil⟩
  have inMessage := Text.infix_of_cons_infix_append free here
  refine ⟨w.file.toList, line, noOpen, noClose, digits, ?_⟩
  refine Text.infix_of_cons_infix_append_cons (y := ':')
    (by simp [noOpen, digits.not_mem noDigit.1]) (by simp) ?_ inMessage
  have mark : ':' ∉ ruleMark := by decide
  simp [WrittenWarning.number, mark, proper.major.not_mem noDigit.2, proper.minor.not_mem noDigit.2]

end Read

namespace WrittenWarning

variable {w : WrittenWarning}

/-- A warning is read as the violation that it reports exactly if its file name holds no colon and
its message opens no bracket. -/
theorem violations_eq_singleton_iff (proper : w.Proper) :
    violations w.write = [w.violation] ↔ ':' ∉ w.file.toList ∧ '[' ∉ w.message.toList := by
  constructor
  · intro read
    obtain ⟨m, found, same⟩ := Option.map_eq_some_iff.mp (Option.toList_eq_singleton_iff.mp read)
    have sameFile : m.group 1 = w.file := congrArg Violation.file same
    obtain ⟨passed, reaches, here, -⟩ := exists_leads_of_findFrom found
    obtain ⟨file, line, front, number, parts⟩ := exists_parts_of_matchAt_warning here
    obtain rfl : file = w.file.toList := by
      rw [← sameFile, parts.file_eq, String.toList_ofList]
    refine ⟨parts.noColon, ?_⟩
    have whole := (reaches.trans parts.through).rest
    rw [Cursor.rest_ofText] at whole
    cases passed with
    | nil => exact noOpen_of_parts proper parts.digits parts.noOpen whole
    | cons x passed =>
      rw [List.append_assoc, List.append_assoc] at whole
      exact absurd (holdsPlace_of_later proper parts.digits whole) proper.noPlace
  · rintro ⟨noColon, noOpen⟩
    obtain ⟨d, leads, -⟩ := Leads.exists_of_rest
      (show (Cursor.ofText w.write.toList).rest = w.write.toList ++ [] by simp [Cursor.rest_ofText])
    obtain ⟨m, found, file, line, number⟩ := exists_matchAt_warning proper noColon noOpen leads
    have first : warningPattern.find? w.write = some m := findFrom_of_matchAt found
    simp only [violations, first, Option.map_some, file, line, number,
      Text.readNumber_toString proper.line, Option.getD_some, w.violation_eq, Option.toList_some]

theorem not_holdsPlace_append {front behind : List Char} (quiet : '[' ∉ front)
    (noColon : ':' ∉ behind) : ¬ HoldsPlace (front ++ behind) := by
  rintro ⟨file, line, -, -, -, here⟩
  have later : place file line <:+: behind := Text.infix_of_cons_infix_append quiet here
  exact noColon (later.subset (by simp [place]))

def styleWarning (file detail : String) : WrittenWarning :=
  ⟨file, 36, ": (style) " ++ detail, "15", "6"⟩

theorem proper_styleWarning {file detail : String} (noOpen : '[' ∉ file.toList)
    (noClose : ']' ∉ file.toList) (noColon : ':' ∉ detail.toList)
    (unmarked : ¬ "[misra-c2012-".toList <:+: (": (style) " ++ detail).toList) :
    (styleWarning file detail).Proper where
  file x hx := ⟨fun same => noOpen (same ▸ hx), fun same => noClose (same ▸ hx)⟩
  line := (by decide : 36 < 18446744073709551616)
  unmarked := unmarked
  noPlace := by
    rw [styleWarning, String.toList_append]
    exact not_holdsPlace_append (by decide) noColon
  major := (by decide : Digits "15".toList)
  minor := (by decide : Digits "6".toList)

theorem violations_eq_singleton_of_plain_file :
    let plain := styleWarning "src/a.c" "misra violation "
    let onDrive := styleWarning "C:\\src\\a.c" "misra violation "
    let quoting := styleWarning "src/a.c" "misra violation in 'b[0]' "
    (plain.Proper ∧ violations plain.write = [⟨"src/a.c", 36, "Rule 15.6"⟩]) ∧
      (onDrive.Proper ∧ violations onDrive.write ≠ [⟨"C:\\src\\a.c", 36, "Rule 15.6"⟩]) ∧
      quoting.Proper ∧ violations quoting.write ≠ [⟨"src/a.c", 36, "Rule 15.6"⟩] := by
  intro plain onDrive quoting
  have proper : plain.Proper :=
    proper_styleWarning (by decide) (by decide) (by decide) (by decide +kernel)
  have proper' : onDrive.Proper :=
    proper_styleWarning (by decide) (by decide) (by decide) (by decide +kernel)
  have proper'' : quoting.Proper :=
    proper_styleWarning (by decide) (by decide) (by decide) (by decide +kernel)
  refine ⟨⟨proper, ?_⟩, ⟨proper', fun read => ?_⟩, proper'', fun read => ?_⟩
  · exact (violations_eq_singleton_iff proper).mpr ⟨by decide, by decide⟩
  · exact absurd ((violations_eq_singleton_iff proper').mp read).1 (by decide)
  · exact absurd ((violations_eq_singleton_iff proper'').mp read).2 (by decide)

theorem not_forall_violations_eq_singleton :
    ¬ ∀ w : WrittenWarning, w.Proper → violations w.write = [w.violation] := by
  intro all
  let onDrive := styleWarning "C:\\src\\a.c" "misra violation "
  have read := all onDrive
    (proper_styleWarning (by decide) (by decide) (by decide) (by decide +kernel))
  have lost : violations onDrive.write = [] := by decide +kernel
  rw [lost] at read
  cases read

end WrittenWarning

end GuidelineCompliance.Cppcheck
