import GuidelineCompliance.Comment
import GuidelineCompliance.Proofs.Lists

/-! The suppressions of a comment as a map from guidelines to marks. Whatever is inserted and
changed, each guideline has one entry, the entries stand in the order in which their guidelines
were first inserted, and an entry has the mark that it was last inserted with, as it was changed
since. -/

namespace GuidelineCompliance

namespace Comment

def remark (c : Comment) (f : String → Mark → Mark) : Comment :=
  { c with suppressions := c.suppressions.map fun s => { s with mark := f s.guideline s.mark } }

theorem remark_congr {c : Comment} {f g : String → Mark → Mark}
    (h : ∀ s ∈ c.suppressions, f s.guideline s.mark = g s.guideline s.mark) :
    c.remark f = c.remark g := by
  unfold remark
  congr 1
  exact List.map_congr_left fun s hs => by rw [h s hs]

theorem remark_eq_self {c : Comment} {f : String → Mark → Mark} (h : ∀ id m, f id m = m) :
    c.remark f = c := by
  simp [remark, h]

theorem mark_eq_remark (c : Comment) (id : String) (f : Mark → Mark) :
    c.mark id f = c.remark fun id' m => if id' = id then f m else m := by
  unfold mark remark
  congr 1
  refine List.map_congr_left fun s _ => ?_
  by_cases same : s.guideline = id <;> simp [same]

theorem remark_remark (c : Comment) (f g : String → Mark → Mark) :
    (c.remark f).remark g = c.remark fun id m => g id (f id m) := by
  simp [remark, Function.comp_def]

@[simp] theorem guidelines_remark (c : Comment) (f : String → Mark → Mark) :
    (c.remark f).guidelines = c.guidelines := by
  simp [guidelines, remark, Function.comp_def]

theorem ne_of_mem_suppressions {c : Comment} {id : String} (absent : id ∉ c.guidelines)
    {s : Suppression} (hs : s ∈ c.suppressions) : s.guideline ≠ id :=
  fun same => absent (List.mem_map.mpr ⟨s, hs, same⟩)

section Listed

variable {file : String} {line : Nat} {isNonMisra : Bool} {ids : List String}

theorem guidelines_listed (marks : String → Mark) :
    (Comment.mk file line isNonMisra (ids.map fun id => ⟨id, marks id⟩)).guidelines = ids := by
  simp [guidelines, Function.comp_def]

theorem remark_listed (marks : String → Mark) (f : String → Mark → Mark) :
    (Comment.mk file line isNonMisra (ids.map fun id => ⟨id, marks id⟩)).remark f =
      ⟨file, line, isNonMisra, ids.map fun id => ⟨id, f id (marks id)⟩⟩ := by
  simp [remark, Function.comp_def]

theorem get?_listed (marks : String → Mark) (id : String) :
    (Comment.mk file line isNonMisra (ids.map fun id => ⟨id, marks id⟩)).get? id =
      if id ∈ ids then some ⟨id, marks id⟩ else none := by
  have found : ids.find? (· = id) = if id ∈ ids then some id else none := by
    induction ids with
    | nil => rfl
    | cons id' ids ih =>
      by_cases same : id' = id
      · simp [same]
      · simp [same, Ne.symm same, ih]
  rw [get?, List.find?_map]
  simp only [Function.comp_def]
  rw [found]
  split <;> rfl

end Listed

/-- A change of the suppressions of a comment: one is inserted, the mark of one guideline is
changed, or the marks of all guidelines are, each in its own way. -/
inductive Change where
  | insert (s : Suppression)
  | mark (guideline : String) (f : Mark → Mark)
  | remark (f : String → Mark → Mark)

def change (c : Comment) : Change → Comment
  | .insert s => c.insert s
  | .mark id f => c.mark id f
  | .remark f => c.remark f

def changeAll (c : Comment) (changes : List Change) : Comment := changes.foldl change c

namespace Change

def inserted? : Change → Option String
  | insert s => some s.guideline
  | mark _ _ => none
  | remark _ => none

def inserted (changes : List Change) : List String := changes.filterMap inserted?

/-- What a change makes of the mark of a guideline. An insertion of the guideline puts another mark
in its place. -/
def markOf (id : String) (m : Mark) : Change → Mark
  | insert s => if id = s.guideline then s.mark else m
  | mark id' f => if id = id' then f m else m
  | remark f => f id m

def markAfter (id : String) (changes : List Change) (m : Mark) : Mark :=
  changes.foldl (markOf id) m

end Change

section Changes

variable {file : String} {line : Nat} {isNonMisra : Bool}

theorem change_listed (ids : List String) (marks : String → Mark) (ch : Change) :
    (Comment.mk file line isNonMisra (ids.eraseDups.map fun id => ⟨id, marks id⟩)).change ch =
      ⟨file, line, isNonMisra, (ids ++ ch.inserted?.toList).eraseDups.map fun id =>
        ⟨id, ch.markOf id (marks id)⟩⟩ := by
  cases ch with
  | insert s =>
    rw [change, insert, guidelines_listed, Change.inserted?, Option.toList_some,
      eraseDups_append_singleton]
    by_cases h : s.guideline ∈ ids
    · rw [if_pos (List.mem_eraseDups.mpr h), if_pos h, mark_eq_remark, remark_listed]
      rfl
    · rw [if_neg (mt List.mem_eraseDups.mp h), if_neg h, List.map_append, List.map_singleton]
      have others : ∀ id ∈ ids.eraseDups, (Change.insert s).markOf id (marks id) = marks id :=
        fun id mem => if_neg fun same : id = s.guideline => h (same ▸ List.mem_eraseDups.mp mem)
      have new : (Change.insert s).markOf s.guideline (marks s.guideline) = s.mark := if_pos rfl
      rw [new]
      congr 2
      exact List.map_congr_left fun id mem => by rw [others id mem]
  | mark id f =>
    rw [change, mark_eq_remark, remark_listed]
    simp [Change.inserted?, Change.markOf]
  | remark f =>
    rw [change, remark_listed]
    simp [Change.inserted?, Change.markOf]

theorem changeAll_eq (changes : List Change) :
    ({ file, line, isNonMisra } : Comment).changeAll changes =
      ⟨file, line, isNonMisra, (Change.inserted changes).eraseDups.map fun id =>
        ⟨id, Change.markAfter id changes {}⟩⟩ := by
  -- The last change, for an insertion asks which guidelines were inserted before it.
  induction changes using List.reverseRecOn with
  | nil => rfl
  | append_singleton changes ch ih =>
    have last : ({ file, line, isNonMisra } : Comment).changeAll (changes ++ [ch]) =
        (({ file, line, isNonMisra } : Comment).changeAll changes).change ch := by
      simp [changeAll]
    have ids : Change.inserted (changes ++ [ch]) =
        Change.inserted changes ++ ch.inserted?.toList := by
      rw [Change.inserted, List.filterMap_append, ← Change.inserted]
      cases ch <;> rfl
    rw [last, ih, change_listed, ids]
    simp [Change.markAfter]

theorem insertAll_eq {ids : List String} : ({ file, line, isNonMisra } : Comment).insertAll ids =
    ⟨file, line, isNonMisra, ids.eraseDups.map fun id => ⟨id, {}⟩⟩ := by
  let changes := ids.map fun id => Change.insert ⟨id, {}⟩
  have changed : ({ file, line, isNonMisra } : Comment).insertAll ids =
      ({ file, line, isNonMisra } : Comment).changeAll changes := by
    simp [insertAll, changeAll, changes, List.foldl_map, change]
  have listed : Change.inserted changes = ids := by
    simp [Change.inserted, changes, Function.comp_def, Change.inserted?]
  have unmarked (id : String) : Change.markAfter id changes {} = {} := by
    have each : ∀ ch ∈ changes, Change.markOf id {} ch = {} := by
      simp [changes, Change.markOf]
    exact List.foldlRecOn changes (Change.markOf id) (motive := (· = {})) rfl
      fun m hm ch mem => by rw [hm, each ch mem]
  rw [changed, changeAll_eq, listed]
  simp only [unmarked]

theorem suppressions_changeAll (file : String) (line : Nat) (isNonMisra : Bool)
    (changes : List Change) :
    let c := ({ file, line, isNonMisra } : Comment).changeAll changes
    c.guidelines = (Change.inserted changes).eraseDups ∧ c.guidelines.Nodup ∧
      (∀ before s after, changes = before ++ .insert s :: after →
        c.get? s.guideline = some ⟨s.guideline, Change.markAfter s.guideline after s.mark⟩) ∧
      (∀ id, c.get? id = none ↔ id ∉ Change.inserted changes) ∧
      ∀ id f, (c.mark id f).guidelines = c.guidelines ∧
        ∀ id', (c.mark id f).get? id' =
          if id' = id then (c.get? id).map fun s => ⟨id, f s.mark⟩ else c.get? id' := by
  intro c
  have closed : c = ⟨file, line, isNonMisra, (Change.inserted changes).eraseDups.map fun id =>
    ⟨id, Change.markAfter id changes {}⟩⟩ := changeAll_eq changes
  have found (id : String) : c.get? id =
      if id ∈ Change.inserted changes then some ⟨id, Change.markAfter id changes {}⟩ else none := by
    simp only [closed, get?_listed, List.mem_eraseDups]
  have listed : c.guidelines = (Change.inserted changes).eraseDups := by
    rw [closed, guidelines_listed]
  refine ⟨listed, listed ▸ nodup_eraseDups _, fun before s after split => ?_, fun id => ?_,
    fun id f => ⟨?_, fun id' => ?_⟩⟩
  · have mem : s.guideline ∈ Change.inserted changes :=
      List.mem_filterMap.mpr ⟨.insert s, by simp [split], rfl⟩
    rw [found, if_pos mem, split, Change.markAfter, List.foldl_append, List.foldl_cons,
      Change.markOf, if_pos rfl, ← Change.markAfter]
  · rw [found]
    simp
  · rw [closed, mark_eq_remark, remark_listed, guidelines_listed, guidelines_listed]
  · rw [found, found, closed, mark_eq_remark, remark_listed, get?_listed]
    simp only [List.mem_eraseDups]
    by_cases same : id' = id
    · subst same
      simp only [if_true]
      split <;> rfl
    · simp only [same, if_false]

/-- A guideline that is inserted again stays in its place, with the mark of the second insertion and
what is changed behind that. -/
theorem suppressions_changeAll_of_second_insertion :
    let deviation : Deviation := ⟨some "D1", none⟩
    let changes : List Change := [.insert ⟨"Rule 2.1", {}⟩,
      .mark "Rule 2.1" (Mark.asDeviation deviation),
      .insert ⟨"Rule 1.1", {}⟩, .insert ⟨"Rule 2.1", {}⟩, .remark fun _ => Mark.asFalsePositive]
    let c := ({ file := "a.c", line := 3 } : Comment).changeAll changes
    c.guidelines = ["Rule 2.1", "Rule 1.1"] ∧
      c.get? "Rule 2.1" = some ⟨"Rule 2.1", Mark.asFalsePositive {}⟩ ∧
      c.get? "Rule 3.1" = none := by
  intro deviation changes c
  obtain ⟨listed, -, last, never, -⟩ := suppressions_changeAll "a.c" 3 false changes
  refine ⟨listed.trans (by decide), ?_, (never _).mpr (by decide)⟩
  exact last (changes.take 3) ⟨"Rule 2.1", {}⟩ _ rfl

end Changes

end Comment
end GuidelineCompliance
