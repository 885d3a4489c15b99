import Mathlib.Data.List.Forall2
import Mathlib.Data.List.Induction
import Mathlib.Data.List.Nodup

/-! Facts about lists that several modules use. -/

namespace GuidelineCompliance

theorem eq_of_append_cons_eq {α : Type} {x : α} {as as' bs bs' : List α}
    (h : as ++ x :: bs = as' ++ x :: bs') (free : x ∉ bs) (free' : x ∉ bs') :
    as = as' ∧ bs = bs' := by
  obtain ⟨cs, rfl, later⟩ | ⟨cs, rfl, later⟩ := List.append_eq_append_iff.mp h
  · cases cs with
    | nil => simpa using later
    | cons c cs => simp_all
  · cases cs with
    | nil => simpa using later.symm
    | cons c cs => simp_all

theorem exists_of_mem_of_mapM_eq_some {α β : Type} {f : α → Option β} {xs : List α} {ys : List β}
    (h : xs.mapM f = some ys) {y : β} (hy : y ∈ ys) : ∃ x ∈ xs, f x = some y := by
  induction xs generalizing ys with
  | nil =>
    cases h
    cases hy
  | cons x xs ih =>
    rw [List.mapM_cons] at h
    obtain ⟨first, hx, h⟩ := Option.bind_eq_some_iff.mp h
    obtain ⟨rest, hxs, h⟩ := Option.bind_eq_some_iff.mp h
    cases h
    obtain rfl | later := List.mem_cons.mp hy
    · exact ⟨x, List.mem_cons_self, hx⟩
    · obtain ⟨x', mem, hx'⟩ := ih hxs later
      exact ⟨x', List.mem_cons_of_mem _ mem, hx'⟩

theorem forall₂_zip_self {α β κ : Type} {R : α → β → Prop} {as : List α} {bs : List β}
    (h : List.Forall₂ R as bs) (ks : List κ) :
    List.Forall₂ (fun x y => R x.1 y.1 ∧ x.2 = y.2) (as.zip ks) (bs.zip ks) := by
  induction h generalizing ks with
  | nil => simp
  | cons first _ ih =>
    cases ks with
    | nil => simp
    | cons k ks => exact .cons ⟨first, rfl⟩ (ih ks)

theorem eraseDups_append_singleton {α : Type} [DecidableEq α] (xs : List α) (x : α) :
    (xs ++ [x]).eraseDups = if x ∈ xs then xs.eraseDups else xs.eraseDups ++ [x] := by
  rw [List.eraseDups_append]
  by_cases h : x ∈ xs
  · simp [List.cons_removeAll, h]
  · simp [List.cons_removeAll, h, List.eraseDups_cons]

theorem nodup_eraseDups {α : Type} [DecidableEq α] (xs : List α) : xs.eraseDups.Nodup := by
  induction xs using List.reverseRecOn with
  | nil => exact List.nodup_nil
  | append_singleton xs x ih =>
    rw [eraseDups_append_singleton]
    split
    · exact ih
    · rename_i fresh
      rw [← List.concat_eq_append]
      exact ih.concat (mt List.mem_eraseDups.mp fresh)

end GuidelineCompliance
