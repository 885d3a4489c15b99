import GuidelineCompliance.Proofs.Lists
import GuidelineCompliance.Proofs.Reachable

/-! What a run never changes. A catalog lists the ids that it was made from, each of them once and
in the order in which they first came, and its index leads to them. A run leaves the ids and the
categories as they are, and it only adds to the kept comments and to the deviations of a
guideline. -/

namespace GuidelineCompliance

namespace Catalog

theorem map_id_insert (c : Catalog) (g : Guideline) :
    (c.insert g).guidelines.map Guideline.id =
      if g.id ∈ c.guidelines.map Guideline.id then c.guidelines.map Guideline.id
      else c.guidelines.map Guideline.id ++ [g.id] := by
  cases listed : c.get? g.id with
  | some g' =>
    obtain ⟨mem, same⟩ := get?_eq_some_iff.mp listed
    rw [insert_of_get?_eq_some listed, if_pos (List.mem_map.mpr ⟨g', mem, same⟩)]
  | none =>
    have new : g.id ∉ c.guidelines.map Guideline.id := fun mem => by
      obtain ⟨g', mem, same⟩ := List.mem_map.mp mem
      exact get?_eq_none_iff.mp listed g' mem same
    rw [guidelines_insert_of_get?_eq_none listed, if_neg new, List.map_append, List.map_singleton]

theorem map_id_ofGuidelines (gs : List Guideline) :
    (ofGuidelines gs).guidelines.map Guideline.id = (gs.map Guideline.id).eraseDups := by
  induction gs using List.reverseRecOn with
  | nil => rfl
  | append_singleton gs g ih =>
    rw [ofGuidelines_append_singleton, map_id_insert, ih, List.map_append, List.map_singleton,
      eraseDups_append_singleton]
    simp only [List.mem_eraseDups]

end Catalog

namespace Standing

theorem deviations_prefix_takeAll (s : Standing) (es : List Evidence) :
    s.deviations <+: (s.takeAll es).deviations := by
  cases hd : s.isDisapplied with
  | true => exact (deviations_takeAll_of_isDisapplied hd es).symm ▸ List.prefix_refl _
  | false =>
    rw [deviations_takeAll hd]
    split
    · exact List.prefix_refl _
    · exact List.prefix_append _ _

theorem deviations_recategorizeAll (s : Standing) (cs : List Category) :
    (s.recategorizeAll cs).deviations = s.deviations := by
  induction cs generalizing s with
  | nil => rfl
  | cons c cs ih =>
    rw [recategorizeAll, List.foldl_cons, ← recategorizeAll, ih]
    rfl

end Standing

/-- A later record of a guideline: the same guideline, with at most more deviations. -/
structure Guideline.Continues (g g' : Guideline) : Prop where
  id : g'.id = g.id
  category : g'.category = g.category
  deviations : g.standing.deviations <+: g'.standing.deviations

namespace Guideline.Continues

theorem refl (g : Guideline) : g.Continues g := ⟨rfl, rfl, List.prefix_refl _⟩

theorem trans {g g' g'' : Guideline} (first : g.Continues g') (second : g'.Continues g'') :
    g.Continues g'' where
  id := second.id.trans first.id
  category := second.category.trans first.category
  deviations := first.deviations.trans second.deviations

theorem forall₂_trans {gs gs' gs'' : List Guideline} (first : List.Forall₂ Continues gs gs')
    (second : List.Forall₂ Continues gs' gs'') : List.Forall₂ Continues gs gs'' := by
  induction first generalizing gs'' with
  | nil => exact second
  | cons head _ ih =>
    cases second with
    | cons head' tail => exact .cons (head.trans head') (ih tail)

theorem forall₂_map_update (gs : List Guideline) {f : Guideline → Standing → Standing}
    (h : ∀ g s, s.deviations <+: (f g s).deviations) :
    List.Forall₂ Continues gs (gs.map fun g => g.update (f g)) := by
  rw [List.forall₂_map_right_iff, List.forall₂_same]
  exact fun g _ => ⟨rfl, rfl, h g g.standing⟩

end Guideline.Continues

namespace Assessment

open Guideline

/-- A later state of a run: the same guidelines in the same places, and at most more comments. -/
structure Grows (a b : Assessment) : Prop where
  guidelines : List.Forall₂ Continues a.catalog.guidelines b.catalog.guidelines
  comments : a.comments <+: b.comments

theorem Grows.refl (a : Assessment) : a.Grows a where
  guidelines := List.forall₂_same.mpr fun g _ => .refl g
  comments := List.prefix_refl _

theorem Grows.trans {a b c : Assessment} (first : a.Grows b) (second : b.Grows c) : a.Grows c where
  guidelines := Continues.forall₂_trans first.guidelines second.guidelines
  comments := first.comments.trans second.comments

theorem Step.grows {a b : Assessment} (h : Step a b) : a.Grows b := by
  obtain ⟨xs, fs, rfl⟩ | ⟨o, rfl⟩ := h.eq_applyChanges_or_extend
  · constructor
    · rw [applyChanges, Catalog.guidelines_recategorizeAll]
      exact Continues.forall₂_map_update _ fun g s =>
        (Standing.deviations_recategorizeAll s _).symm ▸ List.prefix_refl _
    · exact List.prefix_refl _
  · constructor
    · rw [extend, Catalog.guidelines_takeAll]
      exact Continues.forall₂_map_update _ fun g s => Standing.deviations_prefix_takeAll s _
    · exact List.prefix_append _ _

theorem Reaches.grows {a b : Assessment} (h : Reaches a b) : a.Grows b := by
  induction h with
  | start => exact .refl a
  | step _ last ih => exact ih.trans last.grows

theorem Grows.map_id_eq {a b : Assessment} (h : a.Grows b) :
    b.catalog.guidelines.map Guideline.id = a.catalog.guidelines.map Guideline.id := by
  symm
  rw [← List.forall₂_eq_eq_eq, List.forall₂_map_left_iff, List.forall₂_map_right_iff]
  exact h.guidelines.imp fun _ _ same => same.id.symm

theorem catalog_of_reaches {gs : List Guideline} {a b c : Assessment}
    (made : a.catalog = .ofGuidelines gs) (first : Reaches a b) (later : Reaches b c) :
    b.catalog.guidelines.map Guideline.id = (gs.map Guideline.id).eraseDups ∧
      (b.catalog.guidelines.map Guideline.id).Nodup ∧
      (∀ id g, b.catalog.get? id = some g ↔ g ∈ b.catalog.guidelines ∧ g.id = id) ∧
      (∀ id, b.catalog.get? id = none ↔ ∀ g ∈ b.catalog.guidelines, g.id ≠ id) ∧
      (∀ id i, b.catalog.index.lookup id = some i ↔
        ∃ g, b.catalog.guidelines[i]? = some g ∧ g.id = id) ∧
      List.Forall₂ Continues b.catalog.guidelines c.catalog.guidelines ∧
      b.comments <+: c.comments := by
  refine ⟨?_, b.catalog.nodup, fun _ _ => Catalog.get?_eq_some_iff,
    fun _ => Catalog.get?_eq_none_iff, fun _ _ => Catalog.lookup_index_eq_some_iff,
    later.grows.guidelines, later.grows.comments⟩
  rw [first.grows.map_id_eq, made, Catalog.map_id_ofGuidelines]

theorem catalog_of_reaches_of_repeated_heading :
    let text := "/*** Dir 1.1 (req) ***//*** Rule 1.1 (adv) ***//*** Directive 1.1 (adv) ***/"
    let deviation : Sources := fun _ => .ok "// cppcheck-suppress misra-c2012-1.1 DEVIATION(D1)"
    let violation : Sources := fun _ => .ok "// cppcheck-suppress misra-c2012-1.1"
    let a := cppcheckOver text
    let b := a.ingest (.sources ["a.c"] deviation)
    let c := (b.ingest (.sources ["b.c"] violation)).ingest (.sources ["a.c"] deviation)
    Reaches a b ∧ Reaches b c ∧
      b.catalog.guidelines.map Guideline.id = ["Directive 1.1", "Rule 1.1"] ∧
      b.catalog.get? "Rule 1.1" =
        some ⟨"Rule 1.1", .advisory, ⟨none, .deviations, [⟨some "D1", none⟩]⟩⟩ ∧
      b.catalog.get? "Dir 1.1" = none ∧
      List.Forall₂ Continues b.catalog.guidelines c.catalog.guidelines := by
  intro text deviation violation a b c
  have first : Reaches a b := .step .start (.ingest a _)
  have later : Reaches b c := .step (.step .start (.ingest b _)) (.ingest _ _)
  have made : a.catalog =
    .ofGuidelines ((Catalog.headingPattern.findAll text).map Catalog.ofHeading) := rfl
  obtain ⟨ids, -, found, missing, -, kept, -⟩ := catalog_of_reaches made first later
  refine ⟨first, later, ?_, ?_, ?_, kept⟩
  · rw [ids]
    decide +kernel
  · rw [found]
    decide +kernel
  · rw [missing]
    decide +kernel

end Assessment

end GuidelineCompliance
