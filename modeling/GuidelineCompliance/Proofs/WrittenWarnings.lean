import GuidelineCompliance.Analyzer.PcLint
import GuidelineCompliance.Proofs.Separators
import GuidelineCompliance.Proofs.TagScanning
import GuidelineCompliance.Proofs.WordRuns

/-! Warnings as PC-Lint writes them, and how a reference of a warning is read. What is read from a
reference is the text in its brackets up to the first comma, without the edition. -/

namespace GuidelineCompliance.PcLint

open Pattern

def editionWords : List String := ["2004 ", "2012 ", "C++ "]

def categoryWords : List String := [", advisory", ", required", ", mandatory"]

def severityWords : List String := ["Note", "Info", "Error", "Warning"]

/-- A reference to a guideline. The words for its edition and category may be empty. -/
structure WrittenReference where
  edition : String
  id : String
  category : String

def Bare (cs : List Char) : Prop := ∀ x ∈ cs, x ≠ ',' ∧ x ≠ ']'

def EndsId (cs : List Char) : Prop := ∀ x ∈ cs.head?, (CharSet.noneOf [',', ']']).mem x = false

theorem bare_of_not_mem {cs : List Char} (comma : ',' ∉ cs) (close : ']' ∉ cs) : Bare cs :=
  fun _ hx => ⟨fun same => comma (same ▸ hx), fun same => close (same ▸ hx)⟩

instance (cs : List Char) : Decidable (Bare cs) :=
  decidable_of_iff (',' ∉ cs ∧ ']' ∉ cs)
    ⟨fun ⟨comma, close⟩ => bare_of_not_mem comma close,
      fun h => ⟨fun mem => (h _ mem).1 rfl, fun mem => (h _ mem).2 rfl⟩⟩

theorem bare_editionWord : ∀ w ∈ "" :: editionWords, Bare w.toList := by
  have words : ∀ w ∈ "" :: editionWords, ',' ∉ w.toList ∧ ']' ∉ w.toList := by decide
  exact fun w hw => bare_of_not_mem (words w hw).1 (words w hw).2

theorem Bare.edition_append {edition : String} (he : edition ∈ "" :: editionWords) {id : List Char}
    (bare : Bare id) : Bare (edition.toList ++ id) := fun x hx =>
  (List.mem_append.mp hx).elim (bare_editionWord edition he x) (bare x)

def mark : List Char := "[MISRA ".toList

theorem mark_eq : mark = "[MISRA ".toList := rfl

namespace WrittenReference

structure Proper (r : WrittenReference) : Prop where
  edition : r.edition ∈ "" :: editionWords
  category : r.category ∈ "" :: categoryWords
  named : "Rule ".toList <+: r.id.toList ∨ "Directive ".toList <+: r.id.toList
  bare : Bare r.id.toList

def opening (r : WrittenReference) : List Char :=
  mark ++ r.edition.toList ++ r.id.toList ++ r.category.toList

def write (r : WrittenReference) : String :=
  "[MISRA " ++ r.edition ++ r.id ++ r.category ++ "]"

theorem toList_write (r : WrittenReference) : r.write.toList = r.opening ++ [']'] := by
  simp [write, opening, mark_eq]

def writeAll (rs : List WrittenReference) : String := String.intercalate ", " (rs.map write)

def following : List WrittenReference → List Char
  | [] => []
  | r :: rs => ',' :: ' ' :: (writeAll (r :: rs)).toList

theorem toList_writeAll_cons (r : WrittenReference) (rs : List WrittenReference) :
    (writeAll (r :: rs)).toList = r.opening ++ ']' :: following rs := by
  rw [List.append_cons, ← toList_write]
  cases rs with
  | nil => simp [writeAll, following]
  | cons next rs => simp [writeAll, following]

end WrittenReference

def BeginsReference (cs : List Char) : Prop :=
  ∃ inside, Bare inside ∧ ∃ category ∈ "" :: categoryWords,
    mark ++ inside ++ category.toList ++ [']'] <+: cs

theorem BeginsReference.marked {cs : List Char} (h : BeginsReference cs) : mark <+: cs := by
  obtain ⟨inside, -, category, -, rest, rfl⟩ := h
  exact ⟨inside ++ category.toList ++ [']'] ++ rest, by simp [List.append_assoc]⟩

/-- A reference that is read with the edition and the id that it is written with. -/
structure WrittenReference.Readable (r : WrittenReference) : Prop where
  edition : r.edition ∈ "" :: editionWords
  category : r.category ∈ "" :: categoryWords
  bare : Bare r.id.toList
  plain : r.edition = "" → ∀ w ∈ editionWords, ¬ w.toList <+: r.id.toList

namespace WrittenReference

variable {r : WrittenReference}

theorem Readable.noClose (readable : r.Readable) : ']' ∉ r.opening := by
  have edition : ∀ w ∈ "" :: editionWords, ']' ∉ w.toList := by decide
  have category : ∀ w ∈ "" :: categoryWords, ']' ∉ w.toList := by decide
  have id : ']' ∉ r.id.toList := fun mem => (readable.bare _ mem).2 rfl
  simp [opening, mark_eq, edition _ readable.edition, category _ readable.category, id]

theorem Readable.count_open (readable : r.Readable) :
    r.opening.count '[' = r.id.toList.count '[' + 1 := by
  have edition : ∀ w ∈ "" :: editionWords, w.toList.count '[' = 0 := by decide
  have category : ∀ w ∈ "" :: categoryWords, w.toList.count '[' = 0 := by decide
  have one : mark.count '[' = 1 := by decide
  simp only [opening, List.count_append, edition _ readable.edition, category _ readable.category,
    one]
  omega

theorem Readable.begins (readable : r.Readable) {cs : List Char}
    (h : r.opening ++ [']'] <+: cs) : BeginsReference cs := by
  refine ⟨r.edition.toList ++ r.id.toList, .edition_append readable.edition readable.bare,
    r.category, readable.category, ?_⟩
  rwa [← List.append_assoc]

end WrittenReference

theorem exists_readable {inside : List Char} {category : String} (bare : Bare inside)
    (hc : category ∈ "" :: categoryWords) : ∃ r : WrittenReference,
      r.Readable ∧ r.opening = mark ++ inside ++ category.toList := by
  by_cases written : ∃ w ∈ editionWords, w.toList <+: inside
  · obtain ⟨w, hw, id, rfl⟩ := written
    have nonempty : ∀ w ∈ editionWords, w ≠ "" := by decide
    refine ⟨⟨w, String.ofList id, category⟩, ⟨List.mem_cons_of_mem _ hw, hc, fun x hx => ?_,
      fun empty => absurd empty (nonempty w hw)⟩, ?_⟩
    · rw [String.toList_ofList] at hx
      exact bare x (List.mem_append_right _ hx)
    · simp [WrittenReference.opening]
  · refine ⟨⟨"", String.ofList inside, category⟩, ⟨List.mem_cons_self, hc, ?_, ?_⟩, ?_⟩
    · rwa [String.toList_ofList]
    · rw [String.toList_ofList]
      exact fun _ w hw there => written ⟨w, hw, there⟩
    · simp [WrittenReference.opening]

section Read

variable {c d : Cursor} {m : Match}

def idPattern : Pattern := .capture 1 (many (.noneOf [',', ']']))

def bracketPatterns (id : Pattern) : List Pattern :=
  [lit "[MISRA ", anyOf? editionWords, id, anyOf? categoryWords, char ']']

theorem referencePattern_eq : referencePattern = all (bracketPatterns idPattern) := rfl

theorem apart_editionWords : Apart editionWords := by decide

theorem apart_categoryWords : Apart categoryWords := by decide

theorem mem_bare_iff {x : Char} : (CharSet.noneOf [',', ']']).mem x = true ↔ x ≠ ',' ∧ x ≠ ']' := by
  simp

theorem run_categoryToEnd {α : Type} {k : Follow α} {caps : Captures} {r : α} {category : String}
    (hc : category ∈ "" :: categoryWords) (h : Leads c (category.toList ++ [']']) d)
    (done : k d caps = some r) : run (all [anyOf? categoryWords, char ']']) k c caps = some r := by
  obtain ⟨e, first, close⟩ := h.exists_between
  have closed : run (char ']') k e caps = some r := run_char_eq_some.mpr ⟨d, close, done⟩
  obtain rfl | mem := List.mem_cons.mp hc
  · obtain rfl := first.unique (.refl c)
    have comma : ∀ w ∈ categoryWords, w.toList.head? = some ',' := by decide
    rw [run_all_cons, run_anyOf?_of_absent fun w hw =>
      not_prefix_of_head?_ne (comma w hw) (by simp [close.rest])]
    exact closed
  · exact run_anyOf?_of_leads apart_categoryWords mem first closed

theorem stop_of_category {category : String} (hc : category ∈ "" :: categoryWords) {cs : List Char}
    (h : category.toList ++ [']'] <+: cs) : EndsId cs := by
  have ends : ∀ w ∈ "" :: categoryWords,
      (w.toList ++ [']']).head? = some ',' ∨ (w.toList ++ [']']).head? = some ']' := by decide
  obtain ⟨rest, rfl⟩ := h
  obtain comma | close := ends category hc
  · exact stop_of_head comma (by decide)
  · exact stop_of_head close (by decide)

theorem run_idToEnd {α : Type} {id : List Char} {category : String} (bare : Bare id)
    (hc : category ∈ "" :: categoryWords) (h : Leads c (id ++ (category.toList ++ [']'])) d) :
    ∃ s : Span, s.text = String.ofList id ∧ ∀ (k : Follow α) caps r, k d ((1, s) :: caps) = some r →
      run (all [idPattern, anyOf? categoryWords, char ']']) k c caps = some r := by
  obtain ⟨e, inner, rest⟩ := h.exists_between
  refine ⟨⟨c, e⟩, inner.text, fun k caps r done => ?_⟩
  refine run_many_of_leads inner (fun x hx => mem_bare_iff.mpr (bare x hx))
    (stop_of_category hc ⟨d.rest, rest.rest.symm⟩) ?_
  exact run_categoryToEnd hc rest done

theorem not_edition_of_named {id cs : List Char}
    (named : "Rule ".toList <+: id ∨ "Directive ".toList <+: id) (h : id <+: cs) :
    ∀ w ∈ editionWords, ¬ w.toList <+: cs := by
  have apart : Apart ("Rule " :: "Directive " :: editionWords) := by decide
  have foreign : "Rule " ∉ editionWords ∧ "Directive " ∉ editionWords := by decide
  intro w hw there
  have listed : w ∈ "Rule " :: "Directive " :: editionWords := by simp [hw]
  obtain rule | directive := named
  · obtain rfl := apart.eq_of_prefix (by simp) listed (rule.trans h) there
    exact foreign.1 hw
  · obtain rfl := apart.eq_of_prefix (by simp) listed (directive.trans h) there
    exact foreign.2 hw

theorem WrittenReference.Proper.readable {r : WrittenReference} (proper : r.Proper) :
    r.Readable where
  edition := proper.edition
  category := proper.category
  bare := proper.bare
  plain := fun _ => not_edition_of_named proper.named (List.prefix_refl _)

theorem edition_prefix_of_prefix_append {w : String} (hw : w ∈ editionWords) {id rest : List Char}
    (stop : EndsId rest) (h : w.toList <+: id ++ rest) : w.toList <+: id := by
  cases rest with
  | nil => simpa using h
  | cons x rest =>
    have free : x ∉ w.toList := fun mem => by
      have bare := mem_bare_iff.mpr (bare_editionWord w (List.mem_cons_of_mem _ hw) x mem)
      rw [stop x rfl] at bare
      cases bare
    exact Text.prefix_of_prefix_append_cons free h

theorem run_edition {α : Type} {k : Follow α} {caps : Captures} {x : α} {edition : String}
    (listed : edition ∈ "" :: editionWords) (h : Leads c edition.toList d)
    (empty : edition = "" → ∀ w ∈ editionWords, ¬ w.toList <+: d.rest) (done : k d caps = some x) :
    run (anyOf? editionWords) k c caps = some x := by
  obtain rfl | mem := List.mem_cons.mp listed
  · obtain rfl := h.unique (.refl c)
    rw [run_anyOf?_of_absent (empty rfl), done]
  · exact run_anyOf?_of_leads apart_editionWords mem h done

theorem beginsReference_of_run {α : Type} {id : Pattern} {k : Follow α} {caps : Captures} {r : α}
    (kept : Cursor → Cursor → Captures → Captures)
    (reads : ∀ {k : Follow α} {c}, run id k c caps = some r → ∃ cs d, Leads c cs d ∧
      (∀ x ∈ cs, (CharSet.noneOf [',', ']']).mem x = true) ∧ k d (kept c d caps) = some r)
    (h : run (all (bracketPatterns id)) k c caps = some r) :
    BeginsReference c.rest ∧ ∃ c' d' d, k d (kept c' d' caps) = some r := by
  rw [bracketPatterns, run_all_cons] at h
  obtain ⟨c₁, opened, h⟩ := run_lit_eq_some.mp h
  rw [run_all_cons] at h
  obtain ⟨edition, he, c₂, second, h⟩ := exists_leads_of_run_anyOf? h
  rw [run_all_cons] at h
  obtain ⟨id, c₃, inner, bare, h⟩ := reads h
  rw [run_all_cons] at h
  obtain ⟨category, hc, c₄, fourth, h⟩ := exists_leads_of_run_anyOf? h
  obtain ⟨d, close, done⟩ := run_char_eq_some.mp h
  have whole := (((opened.trans second).trans inner).trans fourth).trans close
  refine ⟨⟨edition.toList ++ id, .edition_append he fun x hx => mem_bare_iff.mp (bare x hx),
    category, hc, d.rest, ?_⟩, c₂, c₃, d, done⟩
  simpa [mark_eq, List.append_assoc] using whole.rest.symm

theorem beginsReference_of_matchAt (h : referencePattern.matchAt c = some m) :
    BeginsReference c.rest := by
  rw [matchAt, referencePattern_eq] at h
  exact (beginsReference_of_run (fun c d caps => (1, ⟨c, d⟩) :: caps) exists_leads_of_run_many h).1

theorem exists_matchAt_reference {r : WrittenReference} (readable : r.Readable)
    (h : Leads c (r.opening ++ [']']) d) :
    ∃ m, referencePattern.matchAt c = some m ∧ m.span.stop = d ∧ m.group 1 = r.id := by
  simp only [WrittenReference.opening, List.append_assoc] at h
  obtain ⟨b, first, behind⟩ := h.exists_between
  obtain ⟨e, second, last⟩ := behind.exists_between
  obtain ⟨f, inner, category⟩ := last.exists_between
  obtain ⟨s, text, read⟩ := run_idToEnd readable.bare readable.category last
  have plain := read (fun d caps => some (⟨⟨c, d⟩, caps⟩ : Match)) [] _ rfl
  refine ⟨⟨⟨c, d⟩, [(1, s)]⟩, ?_, rfl, ?_⟩
  · rw [matchAt, referencePattern_eq, bracketPatterns, run_all_cons]
    refine run_lit_eq_some.mpr ⟨b, first, ?_⟩
    rw [run_all_cons]
    refine run_edition readable.edition second (fun empty w hw there => ?_) plain
    refine readable.plain empty w hw (edition_prefix_of_prefix_append hw ?_ (inner.rest ▸ there))
    exact stop_of_category readable.category ⟨d.rest, category.rest.symm⟩
  · simpa [Match.group, Match.group?, Match.span?, String.ofList_toList] using text

theorem exists_matchAt_of_beginsReference (h : BeginsReference c.rest) :
    ∃ m, referencePattern.matchAt c = some m ∧ ∃ r : WrittenReference, r.Readable ∧
      m.group 1 = r.id ∧ Leads c (r.opening ++ [']']) m.span.stop := by
  obtain ⟨inside, bare, category, hc, rest, split⟩ := h
  obtain ⟨d, leads, -⟩ := Leads.exists_of_rest split.symm
  obtain ⟨r, readable, same⟩ := exists_readable bare hc
  rw [← same] at leads
  obtain ⟨m, found, rfl, id⟩ := exists_matchAt_reference readable leads
  exact ⟨m, found, r, readable, id, leads⟩

/-- What a match of a reference is: it ends at the first bracket that closes, and it leaves nothing
out of the id but an edition in front. -/
theorem exists_readable_of_matchAt (h : referencePattern.matchAt c = some m) :
    ∃ r : WrittenReference, r.Readable ∧ m.group 1 = r.id ∧
      Leads c (r.opening ++ [']']) m.span.stop := by
  obtain ⟨m', found, read⟩ := exists_matchAt_of_beginsReference (beginsReference_of_matchAt h)
  obtain rfl := Option.some.inj (h.symm.trans found)
  exact read

end Read

end GuidelineCompliance.PcLint
