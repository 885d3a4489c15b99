import GuidelineCompliance.Proofs.FaultCodes
import GuidelineCompliance.Proofs.Reachable

/-! The history of faults. A run keeps the faults that it has recorded and the bits of their kinds,
and its code has no other bits. So one fault rules out a compliant verdict for good. -/

namespace GuidelineCompliance

def FaultKind.index : FaultKind → Nat
  | guidelineNotFound => 0
  | unresolvedSuppression => 1
  | recategorizationPlan => 2
  | illegalDeviation => 3
  | fileRead => 4
  | fileWrite => 5

theorem FaultKind.toNat_bit (k : FaultKind) : k.bit.toNat = 1 <<< k.index := by
  cases k <;> rfl

theorem FaultKind.index_inj {k l : FaultKind} : k.index = l.index ↔ k = l := by
  cases k <;> cases l <;> decide

namespace FaultCode

theorem hasBit_ofKind (k : FaultKind) (i : Nat) :
    (ofKind k).hasBit i = decide (k.index = i) := by
  rw [hasBit, ofKind, k.toNat_bit, Nat.one_shiftLeft, Nat.testBit_two_pow]

theorem contains_iff {c d : FaultCode} :
    c.contains d = true ↔ ∀ i, d.hasBit i = true → c.hasBit i = true := by
  have bit (i : Nat) : (c.bits &&& d.bits).toNat.testBit i = (c.hasBit i && d.hasBit i) := by
    simp [hasBit]
  rw [contains, beq_iff_eq]
  constructor
  · intro h i hd
    have both := bit i
    rw [h, ← hasBit, hd] at both
    simpa using both.symm
  · intro h
    apply UInt32.toNat_inj.mp
    apply Nat.eq_of_testBit_eq
    intro i
    rw [bit, ← hasBit]
    cases hd : d.hasBit i with
    | false => exact Bool.and_false _
    | true => rw [h i hd]; rfl

theorem contains_addAll (c : FaultCode) (fs : List Fault) : (c.addAll fs).contains c = true :=
  contains_iff.mpr fun i h => by rw [hasBit_addAll, h, Bool.true_or]

theorem addAll_eq_foldl_union (c : FaultCode) (fs : List Fault) :
    c.addAll fs = (fs.map Fault.code).foldl union c := by
  rw [addAll, List.foldl_map]

end FaultCode

namespace Assessment

theorem Step.exists_faults {a b : Assessment} (h : Step a b) :
    ∃ fs, b.faults = a.faults ++ fs ∧ b.code = a.code.addAll fs := by
  obtain ⟨xs, fs, rfl⟩ | ⟨o, rfl⟩ := h.eq_applyChanges_or_extend
  · exact ⟨fs, rfl, rfl⟩
  · exact ⟨o.faults, rfl, rfl⟩

theorem Reaches.exists_faults {a b : Assessment} (h : Reaches a b) :
    ∃ fs, b.faults = a.faults ++ fs ∧ b.code = a.code.addAll fs := by
  induction h with
  | start => exact ⟨[], (List.append_nil _).symm, rfl⟩
  | step _ last ih =>
    obtain ⟨fs, faults, code⟩ := ih
    obtain ⟨gs, faults', code'⟩ := last.exists_faults
    exact ⟨fs ++ gs, by rw [faults', faults, List.append_assoc],
      by rw [code', code, FaultCode.addAll_append]⟩

theorem coded_of_begin {s : Setup} {a : Assessment} (h : begin s = .ok a) : a.Coded := by
  obtain ⟨code, faults, -⟩ := nothing_found_of_begin h
  rw [Coded, code, faults, FaultCode.addAll_nil]

theorem Reaches.coded {a b : Assessment} (h : Reaches a b) (start : a.Coded) : b.Coded := by
  obtain ⟨fs, faults, code⟩ := h.exists_faults
  rw [Coded, code, faults, FaultCode.addAll_append, ← start]

theorem Coded.contains_iff {a : Assessment} (h : a.Coded) (k : FaultKind) :
    a.code.contains (.ofKind k) = true ↔ ∃ f ∈ a.faults, f.kind = k := by
  have empty (i : Nat) : FaultCode.none.hasBit i = false := by
    simp [FaultCode.hasBit, FaultCode.none]
  rw [FaultCode.contains_iff, h]
  simp [FaultCode.hasBit_addAll, FaultCode.hasBit_ofKind, Fault.code, empty, FaultKind.index_inj]

theorem Coded.isCompliant_eq_false {a : Assessment} (h : a.Coded) (faulty : a.faults ≠ []) :
    a.isCompliant = false := by
  have set : a.code.isEmpty = false := Bool.eq_false_iff.mpr (mt h.isEmpty_iff.mp faulty)
  rw [isCompliant, set, Bool.false_and]

theorem code_eq_union_of_reaches {s : Setup} {a b : Assessment} (begun : begin s = .ok a)
    (reached : Reaches a b) :
    b.code = (b.faults.map Fault.code).foldl FaultCode.union .none ∧
      (b.code.isEmpty = true ↔ b.faults = []) ∧
      ∀ c, Reaches b c →
        b.faults <+: c.faults ∧ c.code.contains b.code = true ∧
          (b.faults ≠ [] → c.isCompliant = false) := by
  have coded : b.Coded := reached.coded (coded_of_begin begun)
  refine ⟨coded.trans (FaultCode.addAll_eq_foldl_union _ _), coded.isEmpty_iff, ?_⟩
  intro c later
  obtain ⟨fs, faults, code⟩ := later.exists_faults
  refine ⟨⟨fs, faults.symm⟩, by rw [code]; exact FaultCode.contains_addAll _ _, fun faulty => ?_⟩
  apply (later.coded coded).isCompliant_eq_false
  rw [faults]
  exact List.append_ne_nil_of_left_ne_nil faulty fs

/-- A line that a plan refuses is not made good by a later plan. -/
theorem isCompliant_eq_false_of_refused_line :
    let text := "/*** Rule 1.1 (adv) ***/"
    let s : Setup := { analyzer := some Cppcheck.analyzer, catalog := some (.ofReference text) }
    let a := cppcheckOver text
    let b := a.applyPlan ["Rule 1.1, doc"]
    let c := (b.applyPlan ["Rule 1.1, required"]).ingest (.sources ["a.c"] fun _ => .error "gone")
    begin s = .ok a ∧ Reaches a b ∧ Reaches b c ∧ b.faults = [.unknownPlanCategory "doc"] ∧
      c.code.contains b.code = true ∧ c.isCompliant = false := by
  intro text s a b c
  have begun : begin s = .ok a := rfl
  have reached : Reaches a b := reaches_applyPlan a _
  have later : Reaches b c := .step (reaches_applyPlan b _) (.ingest _ _)
  have faults : b.faults = [.unknownPlanCategory "doc"] := by decide +kernel
  obtain ⟨-, -, kept⟩ := code_eq_union_of_reaches begun reached
  obtain ⟨-, bits, verdict⟩ := kept c later
  exact ⟨begun, reached, later, faults, bits, verdict (by rw [faults]; exact List.cons_ne_nil _ _)⟩

end Assessment

end GuidelineCompliance
