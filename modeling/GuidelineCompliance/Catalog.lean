import GuidelineCompliance.Edition
import GuidelineCompliance.Guideline
import GuidelineCompliance.Pattern.Match

/-! Catalogs: the guidelines of one edition in the order of its reference document, no id twice. An
index leads from each id to its guideline. A catalog is read from the headings of the document. -/

namespace GuidelineCompliance

abbrev IdIndex := List (String × Nat)

namespace IdIndex

/-- The index leads from each id of the list to its place, and from no other id to anywhere. -/
def Locates (index : IdIndex) (ids : List String) : Prop :=
  ∀ id i, index.lookup id = some i ↔ ids[i]? = some id

theorem Locates.append {index : IdIndex} {ids : List String} {new : String}
    (h : index.Locates ids) (fresh : index.lookup new = none) :
    Locates ((new, ids.length) :: index) (ids ++ [new]) := by
  intro id i
  have past (behind : ids.length < i) : (ids ++ [new])[i]? = none := by
    apply List.getElem?_eq_none
    rw [List.length_append]
    exact behind
  by_cases same : id = new
  · subst same
    have absent : ids[i]? ≠ some id := by simp [← h id i, fresh]
    obtain before | rfl | behind := Nat.lt_trichotomy i ids.length
    · simp [List.getElem?_append_left before, absent, Nat.ne_of_gt before]
    · simp
    · simp [past behind, Nat.ne_of_lt behind]
  · have other : (id == new) = false := by simpa using same
    rw [List.lookup_cons, other, h id i]
    obtain before | rfl | behind := Nat.lt_trichotomy i ids.length
    · rw [List.getElem?_append_left before]
    · simp [Ne.symm same]
    · rw [past behind, List.getElem?_eq_none (Nat.le_of_lt behind)]

end IdIndex

structure Catalog where
  guidelines : List Guideline
  index : IdIndex
  indexed : index.Locates (guidelines.map Guideline.id)

namespace Catalog

def empty : Catalog := ⟨[], [], by simp [IdIndex.Locates]⟩

def size (c : Catalog) : Nat := c.guidelines.length

def get? (c : Catalog) (id : String) : Option Guideline :=
  (c.index.lookup id).bind (c.guidelines[·]?)

def contains (c : Catalog) (id : String) : Bool := (c.get? id).isSome

theorem map_id_modify (gs : List Guideline) (i : Nat) (f : Standing → Standing) :
    (gs.modify i (·.update f)).map Guideline.id = gs.map Guideline.id := by
  apply List.ext_getElem?
  intro j
  by_cases h : i = j <;> simp [h, Function.comp_def]

def update (c : Catalog) (id : String) (f : Standing → Standing) : Catalog where
  guidelines :=
    match c.index.lookup id with
    | some i => c.guidelines.modify i (·.update f)
    | none => c.guidelines
  index := c.index
  indexed := by
    split
    · rw [map_id_modify]
      exact c.indexed
    · exact c.indexed

/-- Put a guideline behind the others, unless its id is there already. -/
def insert (c : Catalog) (g : Guideline) : Catalog :=
  if h : (c.index.lookup g.id).isSome then c
  else
    { guidelines := c.guidelines ++ [g]
      index := (g.id, c.guidelines.length) :: c.index
      indexed := by
        have fresh : c.index.lookup g.id = none := Option.not_isSome_iff_eq_none.mp h
        simpa using c.indexed.append fresh }

def ofGuidelines (gs : List Guideline) : Catalog := gs.foldl insert empty

def isCompliant (c : Catalog) : Bool := c.guidelines.all Guideline.isCompliant

open Pattern in
/-- The number of a guideline: `n-n-n`, `n.n` or `n`. -/
def numberPattern : Pattern :=
  .any [
    .all [many1 .digit, .char '-', many1 .digit, .char '-', many1 .digit],
    .all [many1 .digit, .char '.', many1 .digit],
    many1 .digit]

def anyCaseWord (word : String) : Pattern :=
  .all (word.toList.map fun c => .set (.anyCase (.char c)))

open Pattern in
def headingPattern : Pattern :=
  .all [
    .char '/', many1 (.char '*'), .char ' ',
    .capture 1 (.all [
      .any [.lit "Rule", .all [.lit "Dir", opt true (.lit "ective")]],
      .char ' ',
      numberPattern]),
    many1 (.char ' '), .char '(',
    .capture 2 (.any (["req", "adv", "mand", "doc"].map anyCaseWord)),
    .char ')', many1 (.char ' '), .char '*']

/-- Directives have one spelling in a catalog. -/
def canonicalId (id : String) : String :=
  match id.toList with
  | 'D' :: 'i' :: 'r' :: ' ' :: number => "Directive " ++ String.ofList number
  | _ => id

def ofHeading (m : Pattern.Match) : Guideline :=
  { id := canonicalId (m.group 1), category := .ofToken (m.group 2) }

/-- The guidelines that a reference document lists. All but its headings is passed over. -/
def ofReference (text : String) : Catalog :=
  ofGuidelines ((headingPattern.findAll text).map ofHeading)

end Catalog

end GuidelineCompliance
