import GuidelineCompliance.Proofs.FileTasks
import Mathlib.Data.List.Forall2

/-! Two tasks side by side, each on a tree of its own. They go the same way as long as what they
are told is the same, and then their results are related as the results of their parts are. -/

namespace GuidelineCompliance.FileTask

variable {α β γ δ : Type} {tree₁ tree₂ : FileTree}

/-- The tasks leave their trees as they are, and end with related results. -/
def Alike (tree₁ tree₂ : FileTree) (R : α → β → Prop) (t : FileTask α) (u : FileTask β) : Prop :=
  ∃ a b, t.run tree₁ = (a, tree₁) ∧ u.run tree₂ = (b, tree₂) ∧ R a b

variable {R : α → β → Prop} {S : γ → δ → Prop}

theorem alike_done {a : α} {b : β} (related : R a b) : Alike tree₁ tree₂ R (done a) (done b) :=
  ⟨a, b, rfl, rfl, related⟩

theorem alike_kindOf {p q : Path} (same : tree₁.kind? p = tree₂.kind? q) :
    Alike tree₁ tree₂ Eq (kindOf p) (kindOf q) := ⟨_, _, rfl, rfl, same⟩

theorem alike_entriesOf {p q : Path} {P : String → Prop} (same : tree₁.entries p = tree₂.entries q)
    (each : ∀ s ∈ tree₁.entries p, P s) :
    Alike tree₁ tree₂ (fun ss ss' => ss = ss' ∧ ∀ s ∈ ss, P s) (entriesOf p) (entriesOf q) :=
  ⟨_, _, rfl, rfl, same, each⟩

theorem Alike.of_run_eq {t t' : FileTask α} {u u' : FileTask β}
    (alike : Alike tree₁ tree₂ R t' u') (left : t.run tree₁ = t'.run tree₁)
    (right : u.run tree₂ = u'.run tree₂) : Alike tree₁ tree₂ R t u := by
  rw [Alike, left, right]
  exact alike

theorem Alike.bind {t : FileTask α} {u : FileTask β} {f : α → FileTask γ} {g : β → FileTask δ}
    (first : Alike tree₁ tree₂ R t u) (later : ∀ a b, R a b → Alike tree₁ tree₂ S (f a) (g b)) :
    Alike tree₁ tree₂ S (t >>= f) (u >>= g) := by
  obtain ⟨a, b, left, right, related⟩ := first
  obtain ⟨c, d, left', right', related'⟩ := later a b related
  refine ⟨c, d, ?_, ?_, related'⟩
  · exact (run_bind t f tree₁).trans (by rw [left, left'])
  · exact (run_bind u g tree₂).trans (by rw [right, right'])

theorem alike_ite {p q : Prop} [Decidable p] [Decidable q] (same : p ↔ q) {t t' : FileTask α}
    {u u' : FileTask β} (yes : p → Alike tree₁ tree₂ R t u) (no : ¬ p → Alike tree₁ tree₂ R t' u') :
    Alike tree₁ tree₂ R (if p then t else t') (if q then u else u') := by
  by_cases h : p
  · rw [if_pos h, if_pos (same.mp h)]
    exact yes h
  · rw [if_neg h, if_neg (mt same.mpr h)]
    exact no h

theorem alike_forEach {f : α → FileTask γ} {g : β → FileTask δ} {as : List α} {bs : List β}
    (items : List.Forall₂ R as bs) (each : ∀ a b, R a b → Alike tree₁ tree₂ S (f a) (g b)) :
    Alike tree₁ tree₂ (List.Forall₂ S) (forEach f as) (forEach g bs) := by
  induction items with
  | nil => exact alike_done .nil
  | cons first _ ih =>
    refine (each _ _ first).bind fun c d related => ih.bind fun cs ds rest => ?_
    exact alike_done (.cons related rest)

theorem alike_forEach_self {f : α → FileTask γ} {g : α → FileTask δ} {as : List α}
    (each : ∀ a ∈ as, Alike tree₁ tree₂ S (f a) (g a)) :
    Alike tree₁ tree₂ (List.Forall₂ S) (forEach f as) (forEach g as) := by
  have items : List.Forall₂ (fun a b => a = b ∧ a ∈ as) as as :=
    List.forall₂_same.mpr fun a ha => ⟨rfl, ha⟩
  refine alike_forEach items ?_
  rintro a _ ⟨rfl, ha⟩
  exact each a ha

end GuidelineCompliance.FileTask
