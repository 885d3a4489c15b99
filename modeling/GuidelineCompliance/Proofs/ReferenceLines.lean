import GuidelineCompliance.Proofs.CatalogUpdate
import GuidelineCompliance.Proofs.WrittenHeadings
import Mathlib.Data.List.Induction

/-! Reference documents line by line. No heading goes over the end of a line, so a document lists
what its lines list. A catalog has the first guideline of each id, in the order of the document, and
it makes no difference whether guidelines are added one by one or as a catalog of their own. -/

namespace GuidelineCompliance.Catalog

theorem get?_insert (c : Catalog) (g : Guideline) (id : String) :
    (c.insert g).get? id = (c.get? id).or (if g.id = id then some g else none) := by
  cases listed : c.get? g.id with
  | some g' =>
    rw [insert_of_get?_eq_some listed]
    split
    · rename_i same
      rw [← same, listed, Option.some_or]
    · rw [Option.or_none]
  | none =>
    have last := guidelines_insert_of_get?_eq_none listed
    split
    · rename_i same
      subst same
      rw [listed, Option.none_or, get?_eq_some_iff, last]
      simp
    · rename_i other
      rw [Option.or_none]
      refine Option.ext fun x => ?_
      rw [get?_eq_some_iff, get?_eq_some_iff, last, List.mem_append, List.mem_singleton]
      refine ⟨fun ⟨mem, same⟩ => ⟨mem.resolve_right fun new => other (new ▸ same), same⟩,
        fun ⟨mem, same⟩ => ⟨Or.inl mem, same⟩⟩

theorem get?_foldl_insert (c : Catalog) (gs : List Guideline) (id : String) :
    (gs.foldl insert c).get? id = (c.get? id).or (gs.find? (·.id = id)) := by
  induction gs generalizing c with
  | nil => simp
  | cons g gs ih =>
    rw [List.foldl_cons, ih, get?_insert, Option.or_assoc, List.find?_cons]
    by_cases same : g.id = id
    · simp [same]
    · simp [same]

theorem get?_ofGuidelines (gs : List Guideline) (id : String) :
    (ofGuidelines gs).get? id = gs.find? (·.id = id) :=
  get?_foldl_insert empty gs id

theorem guidelines_ofGuidelines_sublist (gs : List Guideline) :
    (ofGuidelines gs).guidelines.Sublist gs := by
  induction gs using List.reverseRecOn with
  | nil => exact List.Sublist.refl []
  | append_singleton gs g ih =>
    rw [ofGuidelines_append_singleton]
    cases listed : (ofGuidelines gs).get? g.id with
    | some g' =>
      rw [insert_of_get?_eq_some listed]
      exact ih.trans (List.sublist_append_left gs [g])
    | none =>
      rw [guidelines_insert_of_get?_eq_none listed]
      exact ih.append (List.Sublist.refl [g])

theorem foldl_insert_guidelines (c : Catalog) (gs : List Guideline) :
    (ofGuidelines gs).guidelines.foldl insert c = gs.foldl insert c := by
  induction gs using List.reverseRecOn with
  | nil => rfl
  | append_singleton gs g ih =>
    rw [ofGuidelines_append_singleton, List.foldl_append, ← ih, List.foldl_cons, List.foldl_nil]
    cases listed : (ofGuidelines gs).get? g.id with
    | some g' =>
      -- The guideline that is already there is added before this one comes.
      have there : ((ofGuidelines gs).guidelines.foldl insert c).get? g.id =
          (c.get? g.id).or (some g') := by
        rw [ih, get?_foldl_insert, ← get?_ofGuidelines, listed]
      have nonempty : ((c.get? g.id).or (some g')).isSome = true := by simp
      obtain ⟨x, hx⟩ := Option.isSome_iff_exists.mp nonempty
      rw [insert_of_get?_eq_some listed, insert_of_get?_eq_some (there.trans hx)]
    | none =>
      rw [guidelines_insert_of_get?_eq_none listed, List.foldl_append, List.foldl_cons,
        List.foldl_nil]

theorem ofGuidelines_append (gs hs : List Guideline) :
    ofGuidelines ((ofGuidelines gs).guidelines ++ (ofGuidelines hs).guidelines) =
      ofGuidelines (gs ++ hs) := by
  have first := foldl_insert_guidelines empty gs
  rw [ofGuidelines, List.foldl_append, first, foldl_insert_guidelines, ← List.foldl_append]
  rfl

/-- No heading has a line feed in it, so none goes over the end of a line. -/
theorem headings_lines (a b : String) :
    headings (a ++ "\n" ++ b) = headings a ++ headings b := by
  have inLine : ∀ s ∈ headingPattern.sets, s.mem '\n' = false := by decide +kernel
  have groups := Pattern.map_group_findAll_lines (by decide) (by decide) inLine a b
  have read (text : String) : headings text =
      ((headingPattern.findAll text).map Pattern.Match.group).map
        fun group => { id := canonicalId (group 1), category := .ofToken (group 2) } := by
    rw [headings, List.map_map]
    rfl
  rw [read, groups, List.map_append, ← read, ← read]

theorem ofReference_lines :
    (∀ a b, ofReference (a ++ "\n" ++ b) =
      ofGuidelines ((ofReference a).guidelines ++ (ofReference b).guidelines)) ∧
    (∀ text, (ofReference text).guidelines.Sublist (headings text) ∧
      ∀ id, (ofReference text).get? id = (headings text).find? (·.id = id)) ∧
    ∀ h : WrittenHeading, (ofReference h.write).guidelines =
      [⟨h.id, h.token.word.category, ⟨none, .compliant, []⟩⟩] := by
  have read (text : String) : ofReference text = ofGuidelines (headings text) := rfl
  refine ⟨fun a b => ?_, fun text => ⟨?_, fun id => ?_⟩, fun h => ?_⟩
  · rw [read, headings_lines, read, read, ofGuidelines_append]
  · exact guidelines_ofGuidelines_sublist (headings text)
  · exact get?_ofGuidelines (headings text) id
  · rw [read, headings_write]
    rfl

end GuidelineCompliance.Catalog
