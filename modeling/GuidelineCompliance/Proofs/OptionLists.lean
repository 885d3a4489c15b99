import GuidelineCompliance.Proofs.WarningLines

/-! Options at the front of a suppression comment. Each of them is read with the blanks behind it,
and reading ends where no option begins. An option is recognized by its sign, a word or none, and a
digit: the arguments that belong to a word may be missing. -/

namespace GuidelineCompliance

namespace Text

def blankRanges : List (Nat × Nat) :=
  [(0x9, 0xD), (0x20, 0x20), (0x85, 0x85), (0xA0, 0xA0), (0x1680, 0x1680), (0x2000, 0x200A),
    (0x2028, 0x2029), (0x202F, 0x202F), (0x205F, 0x205F), (0x3000, 0x3000)]

theorem exists_blankRange {x : Char} (h : isBlank x = true) :
    ∃ r ∈ blankRanges, r.1 ≤ x.toNat ∧ x.toNat ≤ r.2 := by
  simp only [isBlank, Bool.or_eq_true, Bool.and_eq_true, decide_eq_true_eq, beq_iff_eq,
    UInt32.le_iff_toNat_le, ← UInt32.toNat_inj, Char.toNat_val, UInt32.reduceToNat] at h
  simp only [blankRanges, List.exists_mem_cons_iff, List.not_mem_nil, false_and, exists_false,
    or_false]
  omega

theorem exists_digitRange {x : Char} (h : isDigit x = true) :
    ∃ r ∈ (0x30, 0x39) :: digitRanges, r.1 ≤ x.toNat ∧ x.toNat ≤ r.2 := by
  rw [isDigit, Bool.or_eq_true] at h
  obtain ascii | other := h
  · rw [Char.isDigit, Bool.and_eq_true, decide_eq_true_eq, decide_eq_true_eq] at ascii
    exact ⟨_, List.mem_cons_self, ascii⟩
  · rw [Bool.and_eq_true, List.any_eq_true] at other
    obtain ⟨r, hr, within⟩ := other.2
    rw [Bool.and_eq_true, decide_eq_true_eq, decide_eq_true_eq] at within
    exact ⟨r, List.mem_cons_of_mem _ hr, within⟩

theorem isDigit_eq_false_of_isBlank {x : Char} (h : isBlank x = true) : isDigit x = false := by
  have apart : ∀ b ∈ blankRanges, ∀ d ∈ (0x30, 0x39) :: digitRanges, b.2 < d.1 ∨ d.2 < b.1 := by
    decide +kernel
  refine Bool.eq_false_iff.mpr fun digit => ?_
  obtain ⟨b, hb, low, high⟩ := exists_blankRange h
  obtain ⟨d, hd, low', high'⟩ := exists_digitRange digit
  have := apart b hb d hd
  omega

end Text

namespace PcLint

open Pattern

def optionWords : List String :=
  ["sym(", "func(", "macro(", "file(", "template(", "string(", "call(", "type("]

/-- An option that switches a message off, with the blanks behind it. It has the code alone, or a
word with the code and arguments. -/
structure WrittenOption where
  sign : Char
  scope : Option (String × String)
  code : String
  blanks : String

namespace WrittenOption

structure Proper (o : WrittenOption) : Prop where
  sign : o.sign = '-' ∨ o.sign = '!'
  word : ∀ s ∈ o.scope, s.1 ∈ optionWords
  arguments : ∀ s ∈ o.scope, ')' ∉ s.2.toList
  code : o.code ≠ ""
  digits : ∀ x ∈ o.code.toList, x.isDigit = true
  blanks : ∀ x ∈ o.blanks.toList, Text.isBlank x = true

instance (o : WrittenOption) : Decidable o.Proper :=
  decidable_of_iff ((o.sign = '-' ∨ o.sign = '!') ∧ (∀ s ∈ o.scope, s.1 ∈ optionWords) ∧
      (∀ s ∈ o.scope, ')' ∉ s.2.toList) ∧ o.code ≠ "" ∧ o.code.toList.all Char.isDigit = true ∧
      o.blanks.toList.all Text.isBlank = true)
    ⟨fun ⟨sign, word, arguments, code, digits, blanks⟩ => ⟨sign, word, arguments, code,
        List.all_eq_true.mp digits, List.all_eq_true.mp blanks⟩,
      fun h => ⟨h.sign, h.word, h.arguments, h.code, List.all_eq_true.mpr h.digits,
        List.all_eq_true.mpr h.blanks⟩⟩

def word (o : WrittenOption) : String :=
  match o.scope with
  | none => ""
  | some (word, _) => word

def behindCode (o : WrittenOption) : String :=
  match o.scope with
  | none => ""
  | some (_, arguments) => "," ++ arguments ++ ")"

def write (o : WrittenOption) : String :=
  String.singleton o.sign ++ "e" ++ o.word ++ o.code ++ o.behindCode ++ o.blanks

def writeAll (options : List WrittenOption) : String := String.join (options.map write)

def number (o : WrittenOption) : Nat := Text.digitsValue o.code.toList

theorem toList_write (o : WrittenOption) :
    o.write.toList = [o.sign] ++ (['e'] ++ (o.word.toList ++ (o.code.toList ++
      (o.behindCode.toList ++ o.blanks.toList)))) := by
  simp [write]

theorem toList_writeAll_cons (o : WrittenOption) (options : List WrittenOption) :
    (writeAll (o :: options)).toList = o.write.toList ++ (writeAll options).toList := by
  simp [writeAll, String.join_cons]

variable {o : WrittenOption}

theorem Proper.word_mem (proper : o.Proper) : o.word ∈ "" :: optionWords := by
  rw [WrittenOption.word]
  split
  · exact List.mem_cons_self
  · rename_i word arguments scope
    exact List.mem_cons_of_mem _ (proper.word _ scope)

end WrittenOption

/-- Every option has a blank or the end of the text behind it, and behind its blanks the next option
or the tail begins. -/
def Spaced : List WrittenOption → String → Prop
  | [], _ => True
  | [o], tail =>
    (o.blanks = "" → tail = "") ∧ ∀ x ∈ tail.toList.head?, Text.isBlank x = false
  | o :: next :: options, tail => o.blanks ≠ "" ∧ Spaced (next :: options) tail

/-- A sign, a word or none, and a digit: an option is taken to begin there. -/
def BeginsOption (cs : List Char) : Prop :=
  ∃ sign ∈ ['-', '!'], ∃ word ∈ "" :: optionWords, ∃ digit, Text.isDigit digit = true ∧
    sign :: 'e' :: word.toList ++ [digit] <+: cs

section Read

variable {α : Type} {k : Follow α} {caps : Captures} {c d : Cursor} {r : α} {m : Match}

def optionEnd : Pattern :=
  .alt (all [opt true (char ':'), char ',', many (.noneOf [')']), char ')', many .blank])
    (many .blank)

theorem optionPattern_eq : optionPattern =
    all [.anchor .textStart, .set (.ofList ['-', '!']), char 'e', anyOf? optionWords,
      .capture 1 (many1 .digit), optionEnd] := rfl

theorem apart_optionWords : Apart optionWords := by decide

theorem run_optionEnd_of_blanks {blanks : List Char} (h : Leads c blanks d)
    (blank : ∀ x ∈ blanks, Text.isBlank x = true)
    (stop : ∀ x ∈ d.rest.head?, Text.isBlank x = false)
    (plain : ∀ x ∈ c.rest.head?, x ≠ ':' ∧ x ≠ ',') (done : k d caps = some r) :
    run optionEnd k c caps = some r := by
  have colon : run (char ':') (run (all [char ',', many (.noneOf [')']), char ')', many .blank]) k)
      c caps = none := run_char_eq_none fun x hx => (plain x hx).1
  have comma : run (all [char ',', many (.noneOf [')']), char ')', many .blank]) k c caps =
      none := by
    rw [run_all_cons]
    exact run_char_eq_none fun x hx => (plain x hx).2
  rw [optionEnd, run_alt, run_all_cons, run_opt, colon, comma, Option.or_none, Option.none_or]
  exact run_many_of_leads h blank stop done

theorem run_optionEnd_of_arguments {arguments blanks : List Char}
    (h : Leads c ([','] ++ (arguments ++ ([')'] ++ blanks))) d) (free : ')' ∉ arguments)
    (blank : ∀ x ∈ blanks, Text.isBlank x = true)
    (stop : ∀ x ∈ d.rest.head?, Text.isBlank x = false)
    (done : k d caps = some r) : run optionEnd k c caps = some r := by
  obtain ⟨c₁, comma, h⟩ := h.exists_between
  obtain ⟨c₂, inner, h⟩ := h.exists_between
  obtain ⟨c₃, close, last⟩ := h.exists_between
  have noColon : run (char ':')
      (run (all [char ',', many (.noneOf [')']), char ')', many .blank]) k) c caps = none := by
    refine run_char_eq_none fun x hx => ?_
    obtain rfl : ',' = x := by simpa [comma.rest] using hx
    decide
  have read : run (all [char ',', many (.noneOf [')']), char ')', many .blank]) k c caps =
      some r := by
    rw [run_all_cons]
    refine run_char_eq_some.mpr ⟨c₁, comma, ?_⟩
    rw [run_all_cons]
    refine run_many_of_leads inner (forall_mem_noneOf.mpr free)
      (stop_of_leads close rfl (by decide)) ?_
    rw [run_all_cons]
    refine run_char_eq_some.mpr ⟨c₃, close, ?_⟩
    exact run_many_of_leads last blank stop done
  rw [optionEnd, run_alt, run_all_cons, run_opt, noColon, Option.none_or, read, Option.some_or]

variable {o : WrittenOption}

theorem run_optionEnd (proper : o.Proper) (h : Leads c (o.behindCode.toList ++ o.blanks.toList) d)
    (behind : o.blanks = "" → d.rest = []) (stop : ∀ x ∈ d.rest.head?, Text.isBlank x = false) :
    (∀ x ∈ c.rest.head?, CharSet.digit.mem x = false) ∧
      ∀ (k : Follow α) caps r, k d caps = some r → run optionEnd k c caps = some r := by
  cases scope : o.scope with
  | none =>
    rw [WrittenOption.behindCode, scope] at h
    have blanks : Leads c o.blanks.toList d := h
    have blank : ∀ x ∈ c.rest.head?, Text.isBlank x = true := by
      intro x hx
      rw [blanks.rest] at hx
      cases written : o.blanks.toList with
      | nil => simp [written, behind (String.toList_eq_nil_iff.mp written)] at hx
      | cons y ys =>
        obtain rfl : y = x := by simpa [written] using hx
        exact proper.blanks y (written ▸ List.mem_cons_self)
    refine ⟨fun x hx => Text.isDigit_eq_false_of_isBlank (blank x hx), fun k caps r done => ?_⟩
    refine run_optionEnd_of_blanks blanks proper.blanks stop (fun x hx => ?_) done
    refine ⟨?_, ?_⟩ <;>
    · rintro rfl
      exact absurd (blank _ hx) (by decide)
  | some s =>
    obtain ⟨word, arguments⟩ := s
    rw [WrittenOption.behindCode, scope] at h
    have free : ')' ∉ arguments.toList := proper.arguments _ scope
    have pieces : Leads c ([','] ++ (arguments.toList ++ ([')'] ++ o.blanks.toList))) d := by
      simpa using h
    exact ⟨stop_of_leads pieces rfl (by decide), fun k caps r done =>
      run_optionEnd_of_arguments pieces free proper.blanks stop done⟩

theorem exists_matchAt_option (proper : o.Proper) (start : c.before = none)
    (h : Leads c o.write.toList d) (behind : o.blanks = "" → d.rest = [])
    (stop : ∀ x ∈ d.rest.head?, Text.isBlank x = false) :
    ∃ m, optionPattern.matchAt c = some m ∧ m.group 1 = o.code ∧ m.span.stop = d := by
  rw [o.toList_write] at h
  obtain ⟨c₁, sign, h⟩ := h.exists_between
  obtain ⟨c₂, letter, h⟩ := h.exists_between
  obtain ⟨c₃, word, h⟩ := h.exists_between
  obtain ⟨c₄, code, last⟩ := h.exists_between
  obtain ⟨noDigit, toEnd⟩ := run_optionEnd (α := Match) proper last behind stop
  have digits : o.code.toList ≠ [] := by simpa using proper.code
  have read : run (all [.capture 1 (many1 .digit), optionEnd])
      (fun d caps => some (⟨⟨c, d⟩, caps⟩ : Match)) c₃ [] =
      some ⟨⟨c, d⟩, [(1, ⟨c₃, c₄⟩)]⟩ := by
    rw [run_all_cons, run_capture]
    refine run_many1_of_leads digits code (fun x hx => ?_) noDigit (toEnd _ _ _ rfl)
    exact Text.isDigit_of_ascii (proper.digits x hx)
  refine ⟨⟨⟨c, d⟩, [(1, ⟨c₃, c₄⟩)]⟩, ?_, ?_, rfl⟩
  · rw [matchAt, optionPattern_eq, run_all_cons]
    refine run_textStart_eq_some.mpr ⟨start, ?_⟩
    rw [run_all_cons]
    refine run_set_eq_some.mpr ⟨o.sign, c₁, ?_, sign, ?_⟩
    · obtain same | same := proper.sign <;> rw [same] <;> decide
    rw [run_all_cons]
    refine run_char_eq_some.mpr ⟨c₂, letter, ?_⟩
    rw [run_all_cons]
    obtain empty | mem := List.mem_cons.mp proper.word_mem
    · rw [empty] at word
      obtain rfl := word.unique (.refl c₂)
      rw [run_anyOf?_of_absent fun w hw there => ?_]
      · exact read
      · have letters : ∀ w ∈ optionWords, w.toList.head?.all Char.isDigit = false := by decide
        obtain ⟨x, xs, spelled⟩ := List.exists_cons_of_ne_nil digits
        have digit : x.isDigit = true := proper.digits x (spelled ▸ List.mem_cons_self)
        obtain ⟨more, split⟩ := there
        have first : w.toList.head? = some x := by
          cases hw' : w.toList with
          | nil => simpa [hw'] using letters w hw
          | cons y ys => simpa [hw', code.rest, spelled] using congrArg List.head? split
        simpa [first, digit] using letters w hw
    · exact run_anyOf?_of_leads apart_optionWords mem word read
  · exact code.text_toList

theorem matchAt_option_eq_none (h : ¬ BeginsOption c.rest) : optionPattern.matchAt c = none := by
  rw [Option.eq_none_iff_forall_ne_some]
  intro m found
  apply h
  rw [matchAt, optionPattern_eq, run_all_cons] at found
  obtain ⟨-, found⟩ := run_textStart_eq_some.mp found
  rw [run_all_cons] at found
  obtain ⟨sign, c₁, signed, first, found⟩ := run_set_eq_some.mp found
  rw [run_all_cons] at found
  obtain ⟨c₂, letter, found⟩ := run_char_eq_some.mp found
  rw [run_all_cons] at found
  obtain ⟨word, listed, c₃, third, found⟩ := exists_leads_of_run_anyOf? found
  rw [run_all_cons, run_capture] at found
  obtain ⟨digit, next, isDigit⟩ := exists_head_of_run_many1 found
  obtain ⟨behind, split⟩ := List.head?_eq_some_iff.mp next
  refine ⟨sign, ?_, word, listed, digit, isDigit, behind, ?_⟩
  · simpa [CharSet.mem_ofList] using signed
  · have whole := ((first.trans letter).trans third).rest
    rw [split] at whole
    simp [whole]

theorem findFrom_option_eq_none {cs : List Char} (h : ¬ BeginsOption cs) :
    optionPattern.findFrom (.ofText cs) = none := by
  rw [findFrom_textStart_eq optionPattern_eq, matchAt_option_eq_none h]

end Read

section Codes

variable {options : List WrittenOption} {o : WrittenOption} {tail : String}

theorem Spaced.of_cons (spaced : Spaced (o :: options) tail) : Spaced options tail := by
  cases options with
  | nil => trivial
  | cons next options => exact spaced.2

theorem Spaced.behind (proper : ∀ o' ∈ o :: options, o'.Proper)
    (spaced : Spaced (o :: options) tail) :
    (o.blanks = "" → (WrittenOption.writeAll options ++ tail).toList = []) ∧
      ∀ x ∈ (WrittenOption.writeAll options ++ tail).toList.head?, Text.isBlank x = false := by
  cases options with
  | nil =>
    obtain ⟨ended, stop⟩ := spaced
    have text : (WrittenOption.writeAll [] ++ tail).toList = tail.toList := by
      simp [WrittenOption.writeAll]
    rw [text]
    exact ⟨fun empty => String.toList_eq_nil_iff.mpr (ended empty), stop⟩
  | cons next options =>
    refine ⟨fun nothing => absurd nothing spaced.1, fun x hx => ?_⟩
    obtain rfl : next.sign = x := by
      simpa [WrittenOption.toList_writeAll_cons, WrittenOption.toList_write] using hx
    obtain same | same := (proper next (by simp)).sign <;> rw [same] <;> decide

/-- The codes that are read are those of the options, in order. Every round takes one option, and
the rounds are enough. -/
theorem optionCodes_writeAll (proper : ∀ o ∈ options, o.Proper) (spaced : Spaced options tail)
    (ends : ¬ BeginsOption tail.toList) {n : Nat}
    (enough : (WrittenOption.writeAll options ++ tail).toList.length ≤ n) :
    optionCodes n (WrittenOption.writeAll options ++ tail).toList =
      options.map WrittenOption.code := by
  induction options generalizing n with
  | nil =>
    have text : (WrittenOption.writeAll [] ++ tail).toList = tail.toList := by
      simp [WrittenOption.writeAll]
    cases n with
    | zero => rfl
    | succ n => rw [text, optionCodes, findFrom_option_eq_none ends, List.map_nil]
  | cons o options ih =>
    have text : (WrittenOption.writeAll (o :: options) ++ tail).toList =
        o.write.toList ++ (WrittenOption.writeAll options ++ tail).toList := by
      simp [WrittenOption.toList_writeAll_cons]
    obtain ⟨behind, stop⟩ := spaced.behind proper
    obtain ⟨d, leads, rest⟩ := Leads.exists_of_rest
      ((Cursor.rest_ofText _).trans text)
    obtain ⟨m, found, code, stopped⟩ := exists_matchAt_option (proper o List.mem_cons_self) rfl
      leads (fun empty => rest.trans (behind empty)) (rest ▸ stop)
    have long : o.write.toList.length ≠ 0 := by simp [o.toList_write]
    rw [text, List.length_append] at enough
    obtain ⟨n, rfl⟩ : ∃ n', n = n' + 1 := ⟨n - 1, by omega⟩
    rw [optionCodes, findFrom_of_matchAt found]
    simp only
    rw [code, stopped, rest, ih (fun o' ho' => proper o' (List.mem_cons_of_mem _ ho'))
      spaced.of_cons (by omega), List.map_cons]

end Codes

section Table

variable {table : CodeTable} {options : List WrittenOption} {o : WrittenOption} {tail : String}

def CodeTable.ids (table : CodeTable) (code : Nat) : List String :=
  (table.filter (·.1 = code)).map Prod.snd

/-- The code has 32 bits and an entry in the table. -/
def WrittenOption.Known (table : CodeTable) (o : WrittenOption) : Prop :=
  o.number < 4294967296 ∧ ∃ id, (o.number, id) ∈ table

theorem CodeTable.guidelines?_of_mem {code : Nat} {id : String} (h : (code, id) ∈ table) :
    table.guidelines? code = some (table.ids code) := by
  have listed : (code, id) ∈ table.filter (·.1 = code) := List.mem_filter.mpr ⟨h, by simp⟩
  rw [guidelines?, ids]
  split
  · rename_i empty
    rw [empty] at listed
    cases listed
  · rfl

theorem CodeTable.guidelines?_of_not_mem {code : Nat} (h : ∀ id, (code, id) ∉ table) :
    table.guidelines? code = none := by
  have empty : table.filter (·.1 = code) = [] := by
    refine List.filter_eq_nil_iff.mpr fun entry mem same => ?_
    obtain rfl : entry.1 = code := by simpa using same
    exact h entry.2 mem
  rw [guidelines?, empty]

theorem WrittenOption.Proper.readCode_eq (proper : o.Proper) :
    readCode o.code = if o.number < 4294967296 then some o.number else none := by
  have digits : o.code.toList.all Char.isDigit = true := List.all_eq_true.mpr proper.digits
  have nonempty : o.code.toList ≠ [] := by simpa using proper.code
  rw [readCode, Text.readNumber]
  by_cases bound : o.number < 4294967296
  · rw [if_pos bound, if_pos ⟨nonempty, digits, bound⟩]
    rfl
  · rw [if_neg bound, if_neg fun h => bound h.2.2]

theorem lookUp_of_known (proper : o.Proper) (known : o.Known table) :
    (readCode o.code).bind table.guidelines? = some (table.ids o.number) := by
  obtain ⟨bound, id, mem⟩ := known
  rw [proper.readCode_eq, if_pos bound, Option.bind_some, CodeTable.guidelines?_of_mem mem]

theorem lookUp_of_not_known (proper : o.Proper) (unknown : ¬ o.Known table) :
    (readCode o.code).bind table.guidelines? = none := by
  rw [proper.readCode_eq]
  split
  · rename_i bound
    exact CodeTable.guidelines?_of_not_mem fun id mem => unknown ⟨bound, id, mem⟩
  · rfl

theorem lookUpAll_of_known (proper : ∀ o ∈ options, o.Proper)
    (known : ∀ o ∈ options, o.Known table) :
    ((options.map WrittenOption.code).mapM fun digits =>
      (readCode digits).bind table.guidelines?) =
      some (options.map fun o => table.ids o.number) := by
  induction options with
  | nil => rfl
  | cons o options ih =>
    obtain ⟨first, later⟩ := List.forall_mem_cons.mp proper
    obtain ⟨knownFirst, knownLater⟩ := List.forall_mem_cons.mp known
    rw [List.map_cons, List.mapM_cons, lookUp_of_known first knownFirst, ih later knownLater]
    rfl

theorem lookUpAll_of_not_known (proper : ∀ o ∈ options, o.Proper) (mem : o ∈ options)
    (unknown : ¬ o.Known table) :
    ((options.map WrittenOption.code).mapM fun digits =>
      (readCode digits).bind table.guidelines?) = none := by
  induction options with
  | nil => cases mem
  | cons first options ih =>
    rw [List.map_cons, List.mapM_cons]
    obtain rfl | later := List.mem_cons.mp mem
    · rw [lookUp_of_not_known (proper o List.mem_cons_self) unknown]
      rfl
    · rw [ih (fun o' ho' => proper o' (List.mem_cons_of_mem _ ho')) later]
      cases (readCode first.code).bind table.guidelines? <;> rfl

/-- The options at the front of a comment stand for the guidelines of their codes, unless one of the
codes is not known, and the text behind the options counts for nothing. -/
theorem guidelines_writeAll (proper : ∀ o ∈ options, o.Proper) (spaced : Spaced options tail)
    (ends : ¬ BeginsOption tail.toList) :
    (guidelines table (WrittenOption.writeAll options ++ tail) = none ↔
      ∃ o ∈ options, 4294967296 ≤ o.number ∨ ∀ id, (o.number, id) ∉ table) ∧
    ((∀ o ∈ options, o.number < 4294967296 ∧ ∃ id, (o.number, id) ∈ table) →
      guidelines table (WrittenOption.writeAll options ++ tail) =
        some (options.flatMap fun o => table.ids o.number).eraseDups) := by
  have codes := optionCodes_writeAll proper spaced ends (Nat.le_refl _)
  have readAll (known : ∀ o ∈ options, o.Known table) :
      guidelines table (WrittenOption.writeAll options ++ tail) =
        some (options.flatMap fun o => table.ids o.number).eraseDups := by
    rw [guidelines, codes, lookUpAll_of_known proper known, List.flatMap_def]
    rfl
  have unknown_iff (o : WrittenOption) :
      (4294967296 ≤ o.number ∨ ∀ id, (o.number, id) ∉ table) ↔ ¬ o.Known table := by
    rw [WrittenOption.Known, not_and_or, Nat.not_lt, not_exists]
  simp only [unknown_iff]
  refine ⟨⟨fun empty => ?_, fun ⟨o, mem, unknown⟩ => ?_⟩, readAll⟩
  · by_contra all
    have known : ∀ o ∈ options, o.Known table := fun o mem =>
      by_contra fun unknown => all ⟨o, mem, unknown⟩
    rw [readAll known] at empty
    cases empty
  · rw [guidelines, codes, lookUpAll_of_not_known proper mem unknown]
    rfl

theorem guidelines_writeAll_of_three :
    let table : CodeTable := [(16, "Rule 20.13"), (9015, "Rule 20.12"), (16, "Rule 1.1"),
      (774, "Rule 20.12")]
    let options : List WrittenOption := [⟨'-', some ("sym(", "rai -e1"), "016", " "⟩,
      ⟨'!', none, "9015", "\t\n"⟩, ⟨'-', none, "774", " "⟩]
    let tail := "Hello -e4444444"
    (∀ o ∈ options, o.Proper) ∧ Spaced options tail ∧ ¬ BeginsOption tail.toList ∧
      (∀ o ∈ options, o.number < 4294967296 ∧ ∃ id, (o.number, id) ∈ table) ∧
      guidelines table "-esym(016,rai -e1) !e9015\t\n-e774 Hello -e4444444" =
        some ["Rule 20.13", "Rule 1.1", "Rule 20.12"] := by
  intro table options tail
  have proper : ∀ o ∈ options, o.Proper := by decide
  have first : tail.toList.head? = some 'H' := by decide
  have spaced : Spaced options tail := by
    refine ⟨by decide, by decide, by decide, fun x hx => ?_⟩
    rw [first] at hx
    cases hx
    decide
  have ends : ¬ BeginsOption tail.toList := by
    rintro ⟨sign, signed, word, -, digit, -, more, split⟩
    obtain rfl : sign = 'H' := by simpa [← split] using first
    revert signed
    decide
  have known : ∀ o ∈ options, o.number < 4294967296 ∧ ∃ id, (o.number, id) ∈ table := by
    simp only [options, List.forall_mem_cons]
    refine ⟨⟨by decide, "Rule 20.13", by decide⟩, ⟨by decide, "Rule 20.12", by decide⟩,
      ⟨by decide, "Rule 20.12", by decide⟩, fun _ empty => absurd empty List.not_mem_nil⟩
  have read := (guidelines_writeAll proper spaced ends).2 known
  exact ⟨proper, spaced, ends, known, read⟩

/-- A word and a code without arguments are not an option, but they are read as one. -/
theorem not_forall_guidelines_writeAll :
    ¬ ∀ (table : CodeTable) (options : List WrittenOption) (tail : String),
      (∀ o ∈ options, o.Proper) → Spaced options tail →
      (¬ ∃ o : WrittenOption, o.Proper ∧ o.write.toList <+: tail.toList) →
      (guidelines table (WrittenOption.writeAll options ++ tail) = none ↔
        ∃ o ∈ options, 4294967296 ≤ o.number ∨ ∀ id, (o.number, id) ∉ table) ∧
      ((∀ o ∈ options, o.number < 4294967296 ∧ ∃ id, (o.number, id) ∈ table) →
        guidelines table (WrittenOption.writeAll options ++ tail) =
          some (options.flatMap fun o => table.ids o.number).eraseDups) := by
  intro all
  let tail := "-esym(16)"
  have ends : ¬ ∃ o : WrittenOption, o.Proper ∧ o.write.toList <+: tail.toList := by
    rintro ⟨o, proper, front⟩
    rw [o.toList_write] at front
    cases scope : o.scope with
    | none =>
      have nonempty : o.code.toList ≠ [] := by simpa using proper.code
      obtain ⟨x, xs, spelled⟩ := List.exists_cons_of_ne_nil nonempty
      have digit : x.isDigit = true := proper.digits x (spelled ▸ List.mem_cons_self)
      obtain ⟨more, split⟩ := front
      have third : tail.toList[2]? = some 's' := by decide
      obtain rfl : x = 's' := by
        simpa [← split, WrittenOption.word, scope, spelled] using third
      exact absurd digit (by decide)
    | some s =>
      have comma : ',' ∈ o.behindCode.toList := by simp [WrittenOption.behindCode, scope]
      have mem : ',' ∈ tail.toList := front.subset (by simp [comma])
      exact absurd mem (by decide)
  have read := (all [(16, "Rule 20.13")] [] tail (by simp) trivial ends).2 (by simp)
  exact absurd read (by decide +kernel)

end Table

end PcLint

end GuidelineCompliance
