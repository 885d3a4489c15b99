import GuidelineCompliance.Proofs.Outcome
import GuidelineCompliance.Proofs.Plan

/-! Fault codes. Adding faults to a code adds the bits of their kinds, so a code depends on which
faults were recorded and not on their order or number, and it stays empty only without faults. -/

namespace GuidelineCompliance

namespace FaultCode

def hasBit (c : FaultCode) (i : Nat) : Bool := c.bits.toNat.testBit i

theorem eq_of_hasBit {c d : FaultCode} (h : ∀ i, c.hasBit i = d.hasBit i) : c = d := by
  obtain ⟨c⟩ := c
  obtain ⟨d⟩ := d
  congr 1
  exact UInt32.toNat_inj.mp (Nat.eq_of_testBit_eq h)

theorem hasBit_union (c d : FaultCode) (i : Nat) :
    (c.union d).hasBit i = (c.hasBit i || d.hasBit i) := by
  simp [union, hasBit]

theorem hasBit_addAll (c : FaultCode) (fs : List Fault) (i : Nat) :
    (c.addAll fs).hasBit i = (c.hasBit i || fs.any fun f => f.code.hasBit i) := by
  induction fs generalizing c with
  | nil => simp
  | cons f fs ih =>
    rw [addAll, List.foldl_cons, ← addAll, ih, hasBit_union, List.any_cons, Bool.or_assoc]

theorem exists_hasBit (f : Fault) : ∃ i, f.code.hasBit i = true := by
  unfold Fault.code
  cases f.kind with
  | guidelineNotFound => exact ⟨0, rfl⟩
  | unresolvedSuppression => exact ⟨1, rfl⟩
  | recategorizationPlan => exact ⟨2, rfl⟩
  | illegalDeviation => exact ⟨3, rfl⟩
  | fileRead => exact ⟨4, rfl⟩
  | fileWrite => exact ⟨5, rfl⟩

theorem addAll_congr (c : FaultCode) {fs gs : List Fault} (h : ∀ f, f ∈ fs ↔ f ∈ gs) :
    c.addAll fs = c.addAll gs := by
  apply eq_of_hasBit
  intro i
  have same : (fs.any fun f => f.code.hasBit i) = gs.any fun f => f.code.hasBit i := by
    rw [Bool.eq_iff_iff]
    simp only [List.any_eq_true, h]
  rw [hasBit_addAll, hasBit_addAll, same]

theorem isEmpty_addAll_none_iff (fs : List Fault) : (none.addAll fs).isEmpty = true ↔ fs = [] := by
  constructor
  · intro h
    apply List.eq_nil_iff_forall_not_mem.mpr
    intro f hf
    obtain ⟨i, hi⟩ := exists_hasBit f
    have set : (none.addAll fs).hasBit i = true := by
      rw [hasBit_addAll, Bool.or_eq_true, List.any_eq_true]
      exact Or.inr ⟨f, hf, hi⟩
    rw [isEmpty, beq_iff_eq] at h
    simp [hasBit, h] at set
  · rintro rfl
    rfl

end FaultCode

namespace Assessment

def Coded (a : Assessment) : Prop := a.code = FaultCode.none.addAll a.faults

theorem Coded.extend {a : Assessment} (h : a.Coded) (o : Outcome) : (a.extend o).Coded := by
  have code : (a.extend o).code = a.code.addAll o.faults := rfl
  have faults : (a.extend o).faults = a.faults ++ o.faults := rfl
  rw [Coded, code, faults, FaultCode.addAll_append, ← h]

theorem Coded.applyPlan {a : Assessment} (h : a.Coded) (lines : List String) :
    (a.applyPlan lines).Coded := by
  rw [applyPlan_eq, Coded, applyChanges, FaultCode.addAll_append, ← h]

theorem Coded.isEmpty_iff {a : Assessment} (h : a.Coded) :
    a.code.isEmpty = true ↔ a.faults = [] := by
  rw [h, FaultCode.isEmpty_addAll_none_iff]

end Assessment

end GuidelineCompliance
