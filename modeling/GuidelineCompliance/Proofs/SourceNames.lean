import GuidelineCompliance.Proofs.FileTasks
import GuidelineCompliance.Proofs.Paths
import GuidelineCompliance.Proofs.Trimming

/-! The names of the source files that a source list spells out. The name of a file is meant to be
read in the workspace, so joined to the workspace it is the path of the entry. It is another path
where the workspace lies at a relative path and the entry begins with this path once more. -/

namespace GuidelineCompliance

namespace Path

/-- A relative path that begins with the path of the directory, which is more than a dot. -/
def Repeats (dir p : Path) : Prop :=
  dir.isAbsolute = false ∧ dir.components ≠ [] ∧ dir.components ≠ [.current] ∧
    dir.components <+: p.components

instance (dir p : Path) : Decidable (Repeats dir p) := inferInstanceAs (Decidable (_ ∧ _))

variable {dir p : Path}

theorem components_join_relativeTo (filled : dir.components ≠ []) {rest : List Component}
    (h : p.components = dir.components ++ rest) :
    (dir.join (dir.relativeTo p)).components = p.components := by
  obtain ⟨relative, inner⟩ := innerComponents_relativeTo filled h
  have nonempty : dir ≠ "" := by
    rintro rfl
    exact filled (by decide)
  rw [components_join nonempty relative, inner, h]

theorem components_join_eq_self_iff (filled : dir.components ≠ [])
    (starts : dir.components <+: p.components) :
    p.components = (dir.join p).components ↔ ¬ Repeats dir p := by
  have nonempty : dir ≠ "" := by
    rintro rfl
    exact filled (by decide)
  have sameRoot : dir.isAbsolute = p.isAbsolute := by
    obtain ⟨rest, whole⟩ := starts
    rw [Bool.eq_iff_iff, isAbsolute_iff_root_head, isAbsolute_iff_root_head, ← whole,
      List.head?_append_of_ne_nil _ filled]
  cases absolute : p.isAbsolute with
  | true =>
    rw [absolute] at sameRoot
    refine iff_of_true ?_ fun repeats => ?_
    · rw [join, absolute, if_pos rfl]
    · simp [Repeats, sameRoot] at repeats
  | false =>
    rw [absolute] at sameRoot
    have repeats : Repeats dir p ↔ dir.components ≠ [.current] := by
      simp [Repeats, sameRoot, filled, starts]
    rw [components_join nonempty absolute, repeats, not_not]
    obtain same | same := components_of_relative absolute
    · have noDot : dir.components ≠ [.current] := by
        intro dot
        rw [dot, same] at starts
        exact current_not_mem_innerComponents p (starts.subset List.mem_cons_self)
      rw [same]
      refine iff_of_false (fun equal => filled ?_) noDot
      exact List.append_left_eq_self.mp equal.symm
    · rw [same, ← List.singleton_append, List.append_left_inj]
      exact eq_comm

theorem components_join_relativeTo_eq_iff :
    (dir.join (dir.relativeTo p)).components = (dir.join p).components ↔ ¬ Repeats dir p := by
  by_cases nothing : dir.components = []
  · have empty := eq_empty_of_components_eq_nil nothing
    refine iff_of_true ?_ fun repeats => repeats.2.1 nothing
    rw [empty, join_empty, join_empty, ← empty, components_relativeTo_of_empty nothing]
  · by_cases starts : dir.components <+: p.components
    · obtain ⟨rest, whole⟩ := starts
      rw [components_join_relativeTo nothing whole.symm]
      exact components_join_eq_self_iff nothing ⟨rest, whole⟩
    · rw [relativeTo_eq_self starts]
      exact iff_of_true rfl fun repeats => starts repeats.2.2.2

end Path

open FileTask GuidelineCompliance.Path

namespace Workspace

theorem hasWildcard_trim_eq_false {entry : String} (literal : hasWildcard entry = false) :
    hasWildcard (Text.trim entry) = false := by
  rw [hasWildcard, List.any_eq_false] at literal ⊢
  exact fun c hc => literal c (Text.mem_of_mem_trim hc)

theorem run_sourceFiles_append (root : Path) (front back : List String) (tree : FileTree) :
    ((sourceFiles root (front ++ back)).run tree).1 =
      ((sourceFiles root front).run tree).1 ++ ((sourceFiles root back).run tree).1 := by
  have same := (readsOnly_forEach (readsOnly_entryFiles root) front).run_snd tree
  have parts (entries : List String) : ((sourceFiles root entries).run tree).1 =
      ((forEach (entryFiles root) entries).run tree).1.flatten :=
    congrArg Prod.fst (run_bind (forEach (entryFiles root) entries) _ tree)
  rw [parts, parts, parts, run_forEach_append, same, List.flatten_append]

/-- In every source list, an entry that is spelled out stands for one name. The path that is read
for it is the entry as it is seen from the workspace, unless the entry repeats the path of the
workspace. -/
theorem sourceFiles_literal (root : Path) {entry : String} (literal : hasWildcard entry = false) :
    ∃ file, (∀ front back tree, ((sourceFiles root (front ++ entry :: back)).run tree).1 =
        ((sourceFiles root front).run tree).1 ++ file :: ((sourceFiles root back).run tree).1) ∧
      ((root.join file).components = (root.join (Text.trim entry)).components ↔
        ¬ Repeats root (Text.trim entry)) := by
  refine ⟨root.relativeTo (Text.trim entry), fun front back tree => ?_,
    components_join_relativeTo_eq_iff⟩
  have alone : ((sourceFiles root [entry]).run tree).1 = [root.relativeTo (Text.trim entry)] := by
    have named : entryFiles root entry = .done [root.relativeTo (Text.trim entry)] := by
      rw [entryFiles, hasWildcard_trim_eq_false literal]
      rfl
    simp only [sourceFiles, forEach, named]
    rfl
  rw [run_sourceFiles_append, ← List.singleton_append, run_sourceFiles_append root [entry], alone,
    List.singleton_append]

theorem sourceFiles_literal_of_absolute :
    hasWildcard "/ws/./src/a.c " = false ∧
      ∃ file, (∀ front back tree,
          ((sourceFiles "/ws/" (front ++ "/ws/./src/a.c " :: back)).run tree).1 =
          ((sourceFiles "/ws/" front).run tree).1 ++
            file :: ((sourceFiles "/ws/" back).run tree).1) ∧
        ((Path.join "/ws/" file).components =
          (Path.join "/ws/" (Text.trim "/ws/./src/a.c ")).components) := by
  have literal : hasWildcard "/ws/./src/a.c " = false := by decide
  obtain ⟨file, names, same⟩ := sourceFiles_literal "/ws/" literal
  exact ⟨literal, file, names, same.mpr (by decide)⟩

/-- In the workspace `work`, the entry `work/a.c` stands for `a.c`, which is another file. -/
theorem not_forall_sourceFiles_literal :
    ¬ ∀ (root : Path) (entry : String), hasWildcard entry = false → ∀ tree,
      ((sourceFiles root [entry]).run tree).1.map (fun file => (root.join file).components) =
        [(root.join (Text.trim entry)).components] := by
  intro h
  have same := h "work" "work/a.c" (by decide) FileTree.empty
  revert same
  decide

end Workspace

end GuidelineCompliance
