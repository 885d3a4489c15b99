import GuidelineCompliance.Proofs.FaultHistory
import GuidelineCompliance.Proofs.FileTasks
import GuidelineCompliance.Proofs.FileTrees
import GuidelineCompliance.Proofs.Ingestion
import GuidelineCompliance.Proofs.LogText
import GuidelineCompliance.Proofs.PlanLines
import GuidelineCompliance.Proofs.TagEffects

/-! What a check does to the files of a workspace. It reads first and writes once, so a check that
fails has changed nothing, and one that does not has changed the audit log alone. A log that could
not be written is a fault of the run. -/

namespace GuidelineCompliance

open FileTask

def Unlogged (fs : List Fault) : Prop := ∀ f ∈ fs, f.kind ≠ .fileWrite

theorem unlogged_nil : Unlogged [] := fun _ h => absurd h List.not_mem_nil

theorem unlogged_append {fs gs : List Fault} (h : Unlogged fs) (h' : Unlogged gs) :
    Unlogged (fs ++ gs) := fun f hf => (List.mem_append.mp hf).elim (h f) (h' f)

theorem unlogged_cons {f : Fault} {fs : List Fault} (hf : f.kind ≠ .fileWrite) (h : Unlogged fs) :
    Unlogged (f :: fs) := List.forall_mem_cons.mpr ⟨hf, h⟩

theorem unlogged_singleton {f : Fault} (hf : f.kind ≠ .fileWrite) : Unlogged [f] :=
  unlogged_cons hf unlogged_nil

theorem unlogged_flatMap {α : Type} {g : α → List Fault} (h : ∀ x, Unlogged (g x)) (xs : List α) :
    Unlogged (xs.flatMap g) := fun f hf => by
  obtain ⟨x, -, hx⟩ := List.mem_flatMap.mp hf
  exact h x f hx

namespace Assessment

theorem unlogged_planFaults (c : Catalog) (line : String) : Unlogged (planFaults c line) := by
  by_cases named : planSubject line = ""
  · rw [planFaults_of_blank c named]
    exact unlogged_nil
  rw [planFaults]
  cases found : c.get? (planSubject line) with
  | none =>
    simp only [planLine_eq, named, found, if_false]
    exact unlogged_singleton fun same => by cases same
  | some g =>
    rw [planLine_of_get?_eq_some named found]
    by_cases granted : g.admits (.ofToken (planToken line)) = true
    · rw [if_pos granted]
      exact unlogged_nil
    · rw [if_neg granted]
      exact unlogged_singleton (by rw [kind_refusal]; decide)

theorem unlogged_missedFaults (file text : String) (ids : List String)
    (falsePositives deviations : List TagScope) :
    Unlogged (missedFaults file text ids falsePositives deviations) := by
  refine unlogged_append ?_ ?_
  · exact List.forall_mem_map.mpr fun _ _ => nofun
  · exact List.forall_mem_map.mpr fun _ _ => nofun

theorem unlogged_readComment (a : Assessment) (file : String) (line : Nat) (text : String) :
    Unlogged (a.readComment file line text).2 := by
  rw [readComment_eq]
  refine unlogged_append (unlogged_missedFaults _ _ _ _ _) ?_
  split
  · exact unlogged_singleton nofun
  · exact unlogged_nil

theorem unlogged_violationFaults (a : Assessment) (v : Violation) :
    Unlogged (a.violationFaults v) := by
  unfold violationFaults
  split
  · exact unlogged_nil
  · exact unlogged_singleton nofun

theorem unlogged_suppressionFaults (a : Assessment) (file : String) (s : Suppression) :
    Unlogged (a.suppressionFaults file s) := by
  unfold suppressionFaults
  split
  · exact unlogged_singleton nofun
  · split
    · exact unlogged_singleton nofun
    · exact unlogged_nil

theorem unlogged_commentFaults (a : Assessment) (file : String) (c : Comment) :
    Unlogged (a.commentFaults file c) := by
  unfold commentFaults
  split
  · exact unlogged_nil
  · exact unlogged_flatMap (a.unlogged_suppressionFaults file) _

theorem unlogged_itemOutcome (a : Assessment) (i : Item) : Unlogged (a.itemOutcome i).faults := by
  cases i with
  | line text => exact unlogged_flatMap a.unlogged_violationFaults _
  | source file sources =>
    simp only [itemOutcome]
    cases sources file with
    | error reason => exact unlogged_singleton fun same => by cases same
    | ok source =>
      refine unlogged_append ?_ (unlogged_flatMap (a.unlogged_commentFaults file) _)
      rw [readComments, List.flatMap_map]
      refine unlogged_flatMap (fun located => ?_) _
      obtain ⟨line, text⟩ := located
      exact a.unlogged_readComment file line text

theorem unlogged_outcome (a : Assessment) (is : List Ingestion) :
    Unlogged (a.outcome is).faults := by
  change Unlogged (List.flatMap Outcome.faults (List.map a.itemOutcome _))
  rw [List.flatMap_map]
  exact unlogged_flatMap a.unlogged_itemOutcome _

theorem unlogged_of_plan_of_ingestAll {a : Assessment} (h : Unlogged a.faults)
    (plan : List String) (is : List Ingestion) :
    Unlogged ((a.applyPlan plan).ingestAll is).faults := by
  rw [ingestAll_eq_extend]
  refine unlogged_append ?_ (unlogged_outcome _ is)
  rw [applyPlan_eq]
  exact unlogged_append h (unlogged_flatMap (unlogged_planFaults a.catalog) plan)

end Assessment

theorem WriteEnds.nodeAt?_eq {tree tree' : FileTree} {p : Path} {content : Text.Octets}
    {answer : Except FileFault Unit} (h : WriteEnds tree p content answer tree')
    (q : FileTree.Place) (other : tree'.resolve p ≠ .ok q) :
    tree'.nodeAt? q = tree.nodeAt? q := by
  cases h with
  | written h => exact (FileTree.read_of_write h).2 q other
  | refused e => rfl
  | broken e part h => exact (FileTree.read_of_write h).2 q other

namespace Check

open Assessment

variable {α β : Type}

theorem readsUntil_bind {P : FileTask (Except Failure β) → Prop} {x : Attempt α}
    {f : α → Attempt β} (first : x.run.ReadsOnly) (fails : ∀ e, P (.done (.error e)))
    (later : ∀ a, (f a).run.ReadsUntil P) : (x >>= f).run.ReadsUntil P :=
  first.bind_readsUntil fun
    | .ok a => later a
    | .error e => .here (fails e)

theorem readsUntil_pure_bind {P : FileTask (Except Failure β) → Prop} {a : α}
    {f : α → Attempt β} (later : (f a).run.ReadsUntil P) : (pure a >>= f).run.ReadsUntil P := later

theorem readsOnly_lift {t : FileTask α} (h : t.ReadsOnly) :
    (liftM t : Attempt α).run.ReadsOnly :=
  h.bind fun a => readsOnly_done (.ok a : Except Failure α)

theorem readsOnly_readLines (root : Path) (p : Option Path) : (readLines root p).run.ReadsOnly := by
  cases p with
  | none => exact readsOnly_done _
  | some p =>
    refine readsUntil_bind (readsOnly_lift (Workspace.readsOnly_readList root p))
      (fun e => ⟨_, rfl⟩) fun (full, answer) => ?_
    cases answer with
    | ok lines => exact readsOnly_done _
    | error e => exact readsOnly_done _

theorem readsOnly_readReference (directory : Path) (edition : Edition) :
    (readReference directory edition).ReadsOnly := by
  refine (readsOnly_readFile _).bind fun answer => ?_
  split
  · exact readsOnly_done _
  · exact readsOnly_done _
  · exact readsOnly_done _

def conclude (root : Path) (s : Settings) (a : Assessment) : Attempt Assessment :=
  match s.inputs.log with
  | some p => a.writeLogTo (root.join p)
  | none => return a

/-- How a check goes on once it has read everything: it fails, or it comes to its end with an
assessment. -/
inductive Concludes (root : Path) (s : Settings) : FileTask (Except Failure Assessment) → Prop where
  | failed (f : Failure) : Concludes root s (.done (.error f))
  | finished {a : Assessment} (coded : a.Coded) (unlogged : Unlogged a.faults) :
    Concludes root s (conclude root s a).run

theorem concludes_of_begin {setup : Setup} {started : Assessment}
    (begun : Assessment.begin setup = .ok started) (root : Path) (s : Settings)
    (warnings plan files : List String) (sources : Sources) :
    Concludes root s (conclude root s
      (((started.applyPlan plan).ingestWarnings warnings).ingestSources files sources)).run := by
  obtain ⟨-, empty, -⟩ := nothing_found_of_begin begun
  have reached := reaches_run started plan [.warnings warnings, .sources files sources]
  refine .finished (reached.coded (coded_of_begin begun)) ?_
  exact unlogged_of_plan_of_ingestAll (empty ▸ unlogged_nil) plan
    [.warnings warnings, .sources files sources]

end Check

open Check in
theorem readsUntil_check (root : Path) (s : Settings) (read : String → Option Pattern) :
    (check root s read).run.ReadsUntil (Concludes root s) := by
  unfold check
  cases s.tool with
  | none => exact .here (.failed _)
  | some tool =>
    dsimp only
    cases Analyzer.ofName? tool with
    | none => exact .here (.failed _)
    | some analyzer =>
      dsimp only
      refine readsUntil_bind (readsOnly_readLines root _) .failed fun warnings => ?_
      refine readsUntil_bind (readsOnly_readLines root _) .failed fun plan => ?_
      refine readsUntil_bind (readsOnly_readLines root _) .failed fun entries => ?_
      refine readsUntil_bind (readsOnly_lift (Workspace.readsOnly_sourceFiles root _)) .failed
        fun files => ?_
      cases TagPatterns.compile s.tags read with
      | error family => exact .here (.failed _)
      | ok tags =>
        refine readsUntil_pure_bind ?_
        refine readsUntil_bind (readsOnly_lift (readsOnly_readReference _ _)) .failed
          fun reference => ?_
        split
        · rename_i started begun
          refine readsUntil_pure_bind ?_
          refine readsUntil_bind (readsOnly_lift (readsOnly_forEach
            (Workspace.readsOnly_readSource root) _)) .failed fun texts => ?_
          exact .here (concludes_of_begin begun root s warnings plan files _)
        · exact .here (.failed _)

namespace Check

open Assessment

/-- What a check that was to write a log leaves behind. An attempt was made to write the lines of
the assessment, and the assessment has the fault if the attempt failed. -/
structure Logged (a : Assessment) (p : Path) (before after : FileTree) : Prop where
  attempt : ∃ answer,
    WriteEnds before p (.ofText (String.join (a.auditEntries.map (·.text ++ "\n")))) answer after ∧
      (a.code.contains (.ofKind .fileWrite) = true ↔ ∃ e, answer = .error e)
  others : ∀ q, after.resolve p ≠ .ok q → after.nodeAt? q = before.nodeAt? q
  content : a.code.contains (.ofKind .fileWrite) = false →
    after.read p = .ok (.ofText (String.join (a.auditEntries.map (·.text ++ "\n"))))
  verdict : a.code.contains (.ofKind .fileWrite) = true → a.isCompliant = false

theorem logged_of_writeEnds {a : Assessment} {p : Path} {before after : FileTree}
    {answer : Except FileFault Unit} (coded : a.Coded)
    (attempt : WriteEnds before p (.ofText a.auditLog) answer after)
    (told : (∃ f ∈ a.faults, f.kind = .fileWrite) ↔ ∃ e, answer = .error e) :
    Logged a p before after := by
  rw [auditLog, AuditEntry.log_eq_join] at attempt
  rw [← coded.contains_iff] at told
  refine ⟨⟨answer, attempt, told⟩, attempt.nodeAt?_eq, fun sound => ?_, fun failed => ?_⟩
  · have written : ¬ ∃ e, answer = .error e := fun e => by simp [told.mpr e] at sound
    cases attempt with
    | written h => exact (FileTree.read_of_write h).1
    | refused e => exact absurd ⟨e, rfl⟩ written
    | broken e => exact absurd ⟨e, rfl⟩ written
  · obtain ⟨f, hf, -⟩ := (coded.contains_iff _).mp failed
    exact coded.isCompliant_eq_false (List.ne_nil_of_mem hf)

theorem ends_conclude {root : Path} {s : Settings} {a : Assessment} (coded : a.Coded)
    (unlogged : Unlogged a.faults) {before after : FileTree} {result : Except Failure Assessment}
    (h : (conclude root s a).run.Ends before result after) :
    ∃ b, result = .ok b ∧ (s.inputs.log = none → after = before) ∧
      ∀ p, s.inputs.log = some p → Logged b (root.join p) before after := by
  unfold conclude at h
  cases log : s.inputs.log with
  | none =>
    rw [log] at h
    cases h
    exact ⟨a, rfl, fun _ => rfl, nofun⟩
  | some p =>
    rw [log] at h
    cases h with
    | write answer attempt rest =>
      cases answer with
      | ok u =>
        cases rest
        refine ⟨a, rfl, nofun, fun p' hp => ?_⟩
        cases hp
        refine logged_of_writeEnds coded attempt (iff_of_false ?_ nofun)
        exact fun ⟨f, hf, isLog⟩ => unlogged f hf isLog
      | error e =>
        cases rest
        refine ⟨_, rfl, nofun, fun p' hp => ?_⟩
        cases hp
        have mem : Fault.unwritableLog (root.join p) e.message ∈
            (a.record (.unwritableLog (root.join p) e.message)).faults :=
          List.mem_append_right a.faults (.head _)
        refine logged_of_writeEnds (a.record_eq_extend _ ▸ coded.extend _) attempt ?_
        exact iff_of_true ⟨_, mem, rfl⟩ ⟨e, rfl⟩

end Check

open Check in
/-- However a check ends on a machine, one that fails has left every file as it was, and one that
does not has tried to write its log and touched nothing else. -/
theorem logged_of_ends_check {root : Path} {s : Settings} {read : String → Option Pattern}
    {before after : FileTree} {result : Except Failure Assessment}
    (h : (check root s read).run.Ends before result after) :
    (∀ f, result = .error f → after = before) ∧
      ∀ a, result = .ok a → (s.inputs.log = none → after = before) ∧
        ∀ p, s.inputs.log = some p → Logged a (root.join p) before after := by
  obtain ⟨last, concludes, ends⟩ := (readsUntil_check root s read).exists_ends h
  cases concludes with
  | failed f =>
    cases ends
    exact ⟨fun _ _ => rfl, nofun⟩
  | finished coded unlogged =>
    obtain ⟨b, rfl, silent, logged⟩ := ends_conclude coded unlogged ends
    refine ⟨nofun, fun a ha => ?_⟩
    cases ha
    exact ⟨silent, logged⟩

open Check in
/-- A suppression, and the log of an earlier check beside the workspace, which is replaced. -/
theorem logged_of_ends_check_of_earlier_log :
    let reference := FileEntry.file (.ofText "/*** Rule 1.1 (adv) ***/")
    let list := FileEntry.file (.ofText "a.c\n")
    let source := FileEntry.file (.ofText "int x; /* cppcheck-suppress GUIDELINE(Rule 1.1) */")
    let log := FileEntry.file (.ofText "an earlier log, with more text than the next one")
    let workspace := FileEntry.directory
      [("au-misra3.lnt", reference), ("list", list), ("a.c", source)]
    let before : FileTree :=
      ⟨.directory [("w", workspace), ("logs", .directory [("audit.log", log)])], ["logs"]⟩
    let s : Settings := {
      tool := some "cppcheck", inputs := { sources := some "list", log := some "/logs/audit.log" } }
    let ended := (check "/w" s).run.run before
    (check "/w" s).run.Ends before ended.1 ended.2 ∧ ∃ a, ended.1 = .ok a ∧
      Logged a "/logs/audit.log" before ended.2 ∧
      ended.2.read "audit.log" =
        .ok (.ofText "a.c:1: info: Violation of Rule 1.1 (Advisory)\n") := by
  intro reference list source log workspace before s ended
  have ends : (check "/w" s).run.Ends before ended.1 ended.2 := ends_run _ before
  have finished : ended.1.toOption.isSome = true := by decide +kernel
  have written : ended.2.read "audit.log" =
      .ok (.ofText "a.c:1: info: Violation of Rule 1.1 (Advisory)\n") := by decide +kernel
  cases result : ended.1 with
  | error f =>
    rw [result] at finished
    cases finished
  | ok a =>
    obtain ⟨-, logs⟩ := logged_of_ends_check ends
    exact ⟨result ▸ ends, a, rfl, (logs a result).2 "/logs/audit.log" rfl, written⟩

end GuidelineCompliance
