import GuidelineCompliance.Catalog
import Mathlib.Data.List.Nodup

/-! Looking up, adding and updating guidelines. The index of a catalog leads to the one guideline
with an id, so an update changes one standing at most, and a run of updates gives each guideline
exactly those that name it, in their order. -/

namespace GuidelineCompliance

/-- Two places of one id would need two entries of the index. -/
theorem IdIndex.Locates.nodup {index : IdIndex} {ids : List String} (h : index.Locates ids) :
    ids.Nodup := by
  rw [List.nodup_iff_getElem?_ne_getElem?]
  intro i j before bound same
  have first := (h ids[j] i).mpr (by rw [same, List.getElem?_eq_getElem bound])
  have second := (h ids[j] j).mpr (List.getElem?_eq_getElem bound)
  exact absurd (Option.some.inj (first.symm.trans second)) (Nat.ne_of_lt before)

namespace Catalog

attribute [ext] Catalog

theorem nodup (c : Catalog) : (c.guidelines.map Guideline.id).Nodup := c.indexed.nodup

theorem lookup_index_eq_some_iff {c : Catalog} {id : String} {i : Nat} :
    c.index.lookup id = some i ↔ ∃ g, c.guidelines[i]? = some g ∧ g.id = id := by
  rw [c.indexed id i, List.getElem?_map, Option.map_eq_some_iff]

theorem get?_eq_some_iff {c : Catalog} {id : String} {g : Guideline} :
    c.get? id = some g ↔ g ∈ c.guidelines ∧ g.id = id := by
  simp only [get?, Option.bind_eq_some_iff, lookup_index_eq_some_iff]
  constructor
  · rintro ⟨i, ⟨g', listed', same⟩, listed⟩
    rw [listed] at listed'
    cases listed'
    exact ⟨List.mem_of_getElem? listed, same⟩
  · rintro ⟨mem, same⟩
    obtain ⟨i, listed⟩ := List.getElem?_of_mem mem
    exact ⟨i, ⟨g, listed, same⟩, listed⟩

theorem get?_eq_none_iff {c : Catalog} {id : String} :
    c.get? id = none ↔ ∀ g ∈ c.guidelines, g.id ≠ id := by
  simp only [Option.eq_none_iff_forall_ne_some, ne_eq, get?_eq_some_iff, not_and]

theorem insert_of_get?_eq_some {c : Catalog} {g g' : Guideline} (h : c.get? g.id = some g') :
    c.insert g = c := by
  obtain ⟨i, found, -⟩ := Option.bind_eq_some_iff.mp h
  exact dif_pos (by rw [found, Option.isSome_some])

theorem guidelines_insert_of_get?_eq_none {c : Catalog} {g : Guideline}
    (h : c.get? g.id = none) : (c.insert g).guidelines = c.guidelines ++ [g] := by
  have missing : c.index.lookup g.id = none := by
    rw [Option.eq_none_iff_forall_ne_some]
    intro i found
    obtain ⟨g', listed, same⟩ := lookup_index_eq_some_iff.mp found
    exact get?_eq_none_iff.mp h g' (List.mem_of_getElem? listed) same
  rw [insert, dif_neg (by simp [missing])]

theorem ofGuidelines_append_singleton (gs : List Guideline) (g : Guideline) :
    ofGuidelines (gs ++ [g]) = (ofGuidelines gs).insert g := by
  simp [ofGuidelines]

@[simp] theorem index_update (c : Catalog) (id : String) (f : Standing → Standing) :
    (c.update id f).index = c.index := rfl

theorem guidelines_update (c : Catalog) (id : String) (f : Standing → Standing) :
    (c.update id f).guidelines = c.guidelines.map fun g => if g.id = id then g.update f else g := by
  apply List.ext_getElem?
  intro j
  rw [List.getElem?_map]
  cases listed : c.guidelines[j]? with
  | none =>
    simp only [update]
    split
    · rw [List.getElem?_modify, listed]
      rfl
    · rw [listed]
      rfl
  | some g =>
    have found : c.index.lookup id = some j ↔ g.id = id := by
      simp [lookup_index_eq_some_iff, listed]
    cases at? : c.index.lookup id with
    | none =>
      have other : g.id ≠ id := fun same => by simp [found.mpr same] at at?
      simp [update, at?, listed, other]
    | some i =>
      rw [at?, Option.some.injEq] at found
      simp only [update, at?, List.getElem?_modify, listed]
      by_cases same : g.id = id
      · simp [found.mpr same, same]
      · simp [mt found.mp same, same]

theorem update_of_get?_eq_none {c : Catalog} {id : String} (h : c.get? id = none)
    (f : Standing → Standing) : c.update id f = c := by
  have fixed : ∀ g ∈ c.guidelines, (if g.id = id then g.update f else g) = g := fun g hg =>
    if_neg (get?_eq_none_iff.mp h g hg)
  ext1
  · rw [guidelines_update]
    exact (List.map_congr_left fixed).trans (List.map_id' _)
  · rfl

theorem update_congr {c : Catalog} {id : String} {g : Guideline} (h : c.get? id = some g)
    {f f' : Standing → Standing} (same : f g.standing = f' g.standing) :
    c.update id f = c.update id f' := by
  ext1
  · rw [guidelines_update, guidelines_update]
    apply List.map_congr_left
    intro x hx
    by_cases hid : x.id = id
    · obtain rfl : g = x := Option.some.inj (h.symm.trans (get?_eq_some_iff.mpr ⟨hx, hid⟩))
      rw [if_pos hid, if_pos hid, Guideline.update, same, Guideline.update]
    · rw [if_neg hid, if_neg hid]
  · rfl

theorem update_eq_self {c : Catalog} {id : String} {g : Guideline} (h : c.get? id = some g)
    {f : Standing → Standing} (same : f g.standing = g.standing) : c.update id f = c :=
  calc
    c.update id f = c.update id fun s => s := update_congr h same
    _ = c := by
      ext1
      · rw [guidelines_update]
        exact (List.map_congr_left fun g _ => ite_self g).trans (List.map_id' _)
      · rfl

section Runs

variable {α : Type} (key : α → String) (act : α → Standing → Standing)

def updateAll (c : Catalog) (xs : List α) : Catalog :=
  xs.foldl (fun c x => c.update (key x) (act x)) c

/-- What the items with a key make of a standing, one after the other. -/
def actOn (id : String) (xs : List α) (s : Standing) : Standing :=
  (xs.filter (key · = id)).foldl (fun s x => act x s) s

theorem guidelines_updateAll (c : Catalog) (xs : List α) :
    (c.updateAll key act xs).guidelines =
      c.guidelines.map fun g => g.update (actOn key act g.id xs) := by
  induction xs generalizing c with
  | nil => exact (List.map_id' _).symm
  | cons x xs ih =>
    rw [updateAll, List.foldl_cons, ← updateAll, ih, guidelines_update, List.map_map]
    apply List.map_congr_left
    intro g _
    by_cases h : g.id = key x
    · simp [Guideline.update, actOn, h]
    · simp [Guideline.update, actOn, h, Ne.symm h]

theorem index_updateAll (c : Catalog) (xs : List α) : (c.updateAll key act xs).index = c.index := by
  induction xs generalizing c with
  | nil => rfl
  | cons x xs ih => rw [updateAll, List.foldl_cons, ← updateAll, ih, index_update]

theorem get?_updateAll (c : Catalog) (xs : List α) (id : String) :
    (c.updateAll key act xs).get? id =
      (c.get? id).map fun g => g.update (actOn key act g.id xs) := by
  rw [get?, index_updateAll, guidelines_updateAll, get?]
  cases c.index.lookup id with
  | none => rfl
  | some i => exact List.getElem?_map

end Runs

end Catalog

end GuidelineCompliance
