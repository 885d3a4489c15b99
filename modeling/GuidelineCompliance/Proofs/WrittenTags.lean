import GuidelineCompliance.Proofs.Separators
import GuidelineCompliance.Tag
import Mathlib.Data.List.Infix

/-! Tags as they are written. A tag is a word, and behind it fields in brackets. Fields that hold no
marks of their own cannot be taken for tags: where a tag seems to begin, there a word begins. -/

namespace GuidelineCompliance

inductive WrittenTag where
  | guideline (id : String)
  | falsePositives
  | falsePositive (id : String)
  | deviation (reference : String)
  | linkedDeviation (reference link : String)
  | scopedDeviation (reference link id : String)
  deriving DecidableEq, Repr

/-- A field that is trimmed and holds nothing that a tag is told by. -/
structure PlainField (field : String) : Prop where
  trimmed : Text.trim field = field
  noOpen : '(' ∉ field.toList
  noClose : ')' ∉ field.toList
  noComma : ',' ∉ field.toList
  noMisra : ¬ "MISRA".toList <:+: field.toList
  noPositive : ¬ "POSITIVE".toList <:+: field.toList

instance (field : String) : Decidable (PlainField field) :=
  decidable_of_iff (Text.trim field = field ∧ '(' ∉ field.toList ∧ ')' ∉ field.toList ∧
      ',' ∉ field.toList ∧ ¬ "MISRA".toList <:+: field.toList ∧
      ¬ "POSITIVE".toList <:+: field.toList)
    ⟨fun ⟨h₁, h₂, h₃, h₄, h₅, h₆⟩ => ⟨h₁, h₂, h₃, h₄, h₅, h₆⟩,
      fun ⟨h₁, h₂, h₃, h₄, h₅, h₆⟩ => ⟨h₁, h₂, h₃, h₄, h₅, h₆⟩⟩

namespace WrittenTag

def word : WrittenTag → String
  | guideline _ => "GUIDELINE"
  | falsePositives => "FALSE_POSITIVE"
  | falsePositive _ => "FALSE_POSITIVE"
  | deviation _ => "DEVIATION"
  | linkedDeviation _ _ => "DEVIATION"
  | scopedDeviation _ _ _ => "DEVIATION"

def fields : WrittenTag → List String
  | guideline id => [id]
  | falsePositives => []
  | falsePositive id => [id]
  | deviation reference => [reference]
  | linkedDeviation reference link => [reference, link]
  | scopedDeviation reference link id => [reference, link, id]

def bracket : List String → String
  | [] => ""
  | field :: fields => "(" ++ String.intercalate ", " (field :: fields) ++ ")"

def write (t : WrittenTag) : String := t.word ++ bracket t.fields

def writeAll (ts : List WrittenTag) : String := String.intercalate " " (ts.map write)

def IsPlain (t : WrittenTag) : Prop := ∀ field ∈ t.fields, PlainField field

instance (t : WrittenTag) : Decidable t.IsPlain :=
  inferInstanceAs (Decidable (∀ field ∈ t.fields, PlainField field))

def present? (field : String) : Option String := if field = "" then none else some field

def guideline? : WrittenTag → Option String
  | guideline id => some id
  | _ => none

def falsePositive? : WrittenTag → Option TagScope
  | falsePositives => some .all
  | falsePositive id => some (.one id)
  | _ => none

def deviation? : WrittenTag → Option DeviationTag
  | deviation reference => some ⟨⟨present? reference, none⟩, .all⟩
  | linkedDeviation reference link =>
    some ⟨⟨present? reference, (present? link).map Link.restore⟩, .all⟩
  | scopedDeviation reference link id =>
    some ⟨⟨present? reference, (present? link).map Link.restore⟩, .one id⟩
  | _ => none

def meaning (ts : List WrittenTag) : CommentTags where
  guidelines := ((ts.filterMap guideline?).filterMap present?).eraseDups
  nonMisra := false
  falsePositives := ts.filterMap falsePositive?
  deviations := ts.filterMap deviation?

def following : List WrittenTag → List Char
  | [] => []
  | t :: ts => ' ' :: (writeAll (t :: ts)).toList

theorem toList_writeAll_cons (t : WrittenTag) (ts : List WrittenTag) :
    (writeAll (t :: ts)).toList = t.write.toList ++ following ts := by
  cases ts with
  | nil => simp [writeAll, following]
  | cons t' ts => simp [writeAll, following]

theorem toList_write (t : WrittenTag) :
    t.write.toList = t.word.toList ++ (bracket t.fields).toList := by
  rw [write, String.toList_append]

end WrittenTag

structure Unmarked (cs : List Char) : Prop where
  noOpen : '(' ∉ cs
  noClose : ')' ∉ cs
  noMisra : ¬ "MISRA".toList <:+: cs
  noPositive : ¬ "POSITIVE".toList <:+: cs

namespace Unmarked

theorem nil : Unmarked [] := ⟨by simp, by simp, by decide, by decide⟩

theorem suffix {cs ds : List Char} (h : Unmarked cs) (hd : ds <:+ cs) : Unmarked ds where
  noOpen mem := h.noOpen (hd.subset mem)
  noClose mem := h.noClose (hd.subset mem)
  noMisra found := h.noMisra (found.trans hd.isInfix)
  noPositive found := h.noPositive (found.trans hd.isInfix)

theorem append_comma {cs ds : List Char} (hc : Unmarked cs) (hd : Unmarked ds) :
    Unmarked (cs ++ ',' :: ' ' :: ds) := by
  have apart {l : List Char} (comma : ',' ∉ l) (space : ' ' ∉ l) (nonempty : l ≠ [])
      (found : l <:+: cs ++ ',' :: ' ' :: ds) : l <:+: cs ∨ l <:+: ds := by
    refine (Text.infix_of_infix_append_cons comma found).imp_right fun later => ?_
    obtain empty | later :=
      Text.infix_of_infix_append_cons space (show l <:+: [] ++ ' ' :: ds from later)
    · exact absurd (List.infix_nil.mp empty) nonempty
    · exact later
  refine ⟨?_, ?_, fun found => ?_, fun found => ?_⟩
  · simp [hc.noOpen, hd.noOpen]
  · simp [hc.noClose, hd.noClose]
  · exact (apart (by decide) (by decide) (by decide) found).elim hc.noMisra hd.noMisra
  · exact (apart (by decide) (by decide) (by decide) found).elim hc.noPositive hd.noPositive

theorem intercalate {field : String} {fields : List String}
    (plain : ∀ f ∈ field :: fields, PlainField f) :
    Unmarked (String.intercalate ", " (field :: fields)).toList := by
  have first := plain field List.mem_cons_self
  have here : Unmarked field.toList :=
    ⟨first.noOpen, first.noClose, first.noMisra, first.noPositive⟩
  induction fields generalizing field with
  | nil => simpa using here
  | cons next fields ih =>
    have rest : ∀ f ∈ next :: fields, PlainField f := fun f hf =>
      plain f (List.mem_cons_of_mem field hf)
    have next := rest next List.mem_cons_self
    have later := ih rest next ⟨next.noOpen, next.noClose, next.noMisra, next.noPositive⟩
    simpa using here.append_comma later

end Unmarked

namespace WrittenTag

theorem bracket_cases {fields : List String} (plain : ∀ f ∈ fields, PlainField f) :
    (bracket fields).toList = [] ∨
      ∃ inner, Unmarked inner ∧ (bracket fields).toList = '(' :: (inner ++ [')']) := by
  cases fields with
  | nil => exact Or.inl rfl
  | cons field fields => exact Or.inr ⟨_, .intercalate plain, by simp [bracket]⟩

/-- What is left of a tag from a place in it on: an end of its word and all behind it, all from the
opening bracket on, or an end of what stands in the brackets. -/
inductive Remainder (t : WrittenTag) : List Char → Prop where
  | inWord {x cs} (h : x :: cs <:+ t.word.toList) :
    Remainder t (x :: cs ++ (bracket t.fields).toList)
  | atBracket {cs} : Remainder t ('(' :: cs)
  | inFields {cs} (h : Unmarked cs) : Remainder t (cs ++ [')'])

theorem remainder_of_suffix {t : WrittenTag} (plain : t.IsPlain) {u v : List Char}
    (split : t.write.toList = u ++ v) (nonempty : v ≠ []) : t.Remainder v := by
  rw [toList_write] at split
  obtain ⟨w, rfl, body⟩ | ⟨w, word, rfl⟩ := List.append_eq_append_iff.mp split
  · obtain empty | ⟨inner, unmarked, shape⟩ := bracket_cases plain
    · rw [empty] at body
      exact absurd (List.append_eq_nil_iff.mp body.symm).2 nonempty
    · rw [shape] at body
      cases w with
      | nil =>
        obtain rfl : '(' :: (inner ++ [')']) = v := body
        exact .atBracket
      | cons x w =>
        obtain ⟨-, body⟩ := List.cons.inj body
        obtain ⟨rest, rfl, last⟩ | ⟨rest, rfl, rfl⟩ := List.append_eq_append_iff.mp body
        · obtain rfl : rest = [] := by
            cases rest with
            | nil => rfl
            | cons y rest => simp_all
          obtain rfl : [')'] = v := last
          exact .inFields .nil
        · exact .inFields (unmarked.suffix (List.suffix_append _ _))
  · cases w with
    | nil =>
      obtain empty | ⟨inner, unmarked, shape⟩ := bracket_cases plain
      · simp [empty] at nonempty
      · rw [List.nil_append, shape]
        exact .atBracket
    | cons x w => exact .inWord (word ▸ List.suffix_append u (x :: w))

theorem noOpen_word (t : WrittenTag) : '(' ∉ t.word.toList := by
  cases t <;> simp only [word] <;> decide

theorem suffix_word_of_opening {t : WrittenTag} (plain : t.IsPlain) {ts : List WrittenTag}
    {v opening : List Char} (r : t.Remainder v) (noOpen : '(' ∉ opening) (noClose : ')' ∉ opening)
    (noSpace : ' ' ∉ opening) (nonempty : opening ≠ [])
    (h : opening ++ ['('] <+: v ++ following ts) : opening <:+ t.word.toList := by
  cases r with
  | @inWord x cs ends =>
    obtain empty | ⟨inner, unmarked, shape⟩ := bracket_cases plain
    · have inWord : opening ++ ['('] <+: x :: cs := by
        rw [empty, List.append_nil] at h
        cases ts with
        | nil => simpa [following] using h
        | cons t' ts => exact Text.prefix_of_prefix_append_cons (by simp [noSpace]) h
      exact absurd (ends.subset (inWord.subset (by simp))) (noOpen_word t)
    · rw [shape, List.append_assoc, List.cons_append] at h
      have free : '(' ∉ x :: cs := fun mem => noOpen_word t (ends.subset mem)
      rw [Text.eq_of_prefix_append_cons noOpen free h]
      exact ends
  | atBracket =>
    cases opening with
    | nil => exact absurd rfl nonempty
    | cons y opening =>
      obtain ⟨rfl, -⟩ := List.cons_prefix_cons.mp h
      exact absurd List.mem_cons_self noOpen
  | @inFields cs unmarked =>
    rw [List.append_assoc] at h
    have inside : opening ++ ['('] <+: cs :=
      Text.prefix_of_prefix_append_cons (by simp [noClose]) h
    exact absurd (inside.subset (by simp)) unmarked.noOpen

/-- `FALSE` and `POSITIVE` stand together only in a tag's word. -/
theorem mem_word_of_false_gap_positive {t : WrittenTag} {ts : List WrittenTag} {v gap : List Char}
    (r : t.Remainder v) (short : gap.length ≤ 1)
    (h : "FALSE".toList ++ (gap ++ "POSITIVE".toList) <+: v ++ following ts) :
    'F' ∈ t.word.toList := by
  cases r with
  | inWord ends =>
    obtain ⟨rfl, -⟩ := List.cons_prefix_cons.mp h
    exact ends.subset List.mem_cons_self
  | atBracket =>
    obtain ⟨absurd, -⟩ := List.cons_prefix_cons.mp h
    exact (by decide : ¬ 'F' = '(') absurd |>.elim
  | @inFields cs unmarked =>
    exfalso
    rw [List.append_assoc] at h
    obtain ⟨ds, rfl⟩ : "FALSE".toList <+: cs :=
      Text.prefix_of_prefix_append_cons (by decide) ((List.prefix_append _ _).trans h)
    rw [List.append_assoc, List.prefix_append_right_inj] at h
    have absent {es rest : List Char} (ends : es <:+ ds)
        (found : "POSITIVE".toList <+: es ++ ')' :: rest) : False := by
      have here : "POSITIVE".toList <+: es := Text.prefix_of_prefix_append_cons (by decide) found
      have whole : es <:+ "FALSE".toList ++ ds := ends.trans (List.suffix_append _ _)
      exact unmarked.noPositive (here.isInfix.trans whole.isInfix)
    match gap, ds, short with
    | [], ds, _ => exact absent List.suffix_rfl h
    | [y], [], _ =>
      -- The bracket would be the one character in between.
      obtain ⟨-, behind⟩ := List.cons_prefix_cons.mp h
      cases ts with
      | nil => exact absurd behind (by decide)
      | cons t' ts => exact absurd (List.cons_prefix_cons.mp behind).1 (by decide)
    | [y], z :: ds, _ =>
      obtain ⟨-, later⟩ := List.cons_prefix_cons.mp h
      exact absent (List.suffix_cons z ds) later

theorem not_misra_infix_writeAll {ts : List WrittenTag} (plain : ∀ t ∈ ts, t.IsPlain) :
    ¬ "MISRA".toList <:+: (writeAll ts).toList := by
  have notOne {t : WrittenTag} (plain : t.IsPlain) : ¬ "MISRA".toList <:+: t.write.toList := by
    have notWord : ¬ "MISRA".toList <:+: t.word.toList := by
      cases t <;> simp only [word] <;> decide +kernel
    intro found
    rw [toList_write] at found
    obtain empty | ⟨inner, unmarked, shape⟩ := bracket_cases plain
    · rw [empty, List.append_nil] at found
      exact notWord found
    · rw [shape] at found
      obtain inWord | later := Text.infix_of_infix_append_cons (by decide) found
      · exact notWord inWord
      · obtain inside | behind := Text.infix_of_infix_append_cons (by decide) later
        · exact unmarked.noMisra inside
        · exact absurd behind (by decide)
  induction ts with
  | nil => decide
  | cons t ts ih =>
    intro found
    rw [toList_writeAll_cons] at found
    have here := notOne (plain t List.mem_cons_self)
    cases ts with
    | nil =>
      rw [following, List.append_nil] at found
      exact here found
    | cons t' ts =>
      obtain one | others := Text.infix_of_infix_append_cons (by decide) found
      · exact here one
      · exact ih (fun t ht => plain t (List.mem_cons_of_mem _ ht)) others

end WrittenTag

end GuidelineCompliance
