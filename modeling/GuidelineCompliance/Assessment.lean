import GuidelineCompliance.Analyzer.Basic
import GuidelineCompliance.Audit
import GuidelineCompliance.Fault
import GuidelineCompliance.LineFinder
import GuidelineCompliance.Reference
import GuidelineCompliance.Tag

/-! An assessment: the state of a run, and the steps that take it further. The plan, the reported
violations and the suppression comments each change the catalog; what goes wrong is recorded as a
fault and ends nothing. -/

namespace GuidelineCompliance

/-- Source texts by file name, or the reason why a file cannot be read. -/
abbrev Sources := String → Except String String

/-- What a run has found up to now. `code` is the set of the kinds of `faults`. -/
structure Assessment where
  tool : String
  edition : Edition
  reference : String
  reader : Reader
  tags : TagPatterns
  catalog : Catalog
  code : FaultCode := .none
  faults : List Fault := []
  comments : List Comment := []

inductive SetupError where
  | noAnalyzer
  | unsupportedEdition (tool : String) (edition : Edition) (supported : List Edition)
  | reference (e : ReferenceError)
  deriving DecidableEq, Repr

namespace SetupError

def message : SetupError → String
  | noAnalyzer => "no tool adapter configured"
  | unsupportedEdition tool edition _ => tool ++ " does not support " ++ edition.name
  | reference e => e.message

def help? : SetupError → Option String
  | noAnalyzer => none
  | unsupportedEdition _ _ supported =>
    some ("supported versions: " ++ Summary.joinList (supported.map Edition.name))
  | reference e => e.help?

end SetupError

/-- What a run begins with. Without references or a catalog there are no guidelines to check. -/
structure Setup where
  analyzer : Option Analyzer := none
  edition : Edition := .standard
  references : Option References := none
  catalog : Option Catalog := none
  tags : TagPatterns := .standard

namespace Assessment

/-- Begin a run. The reference document is read even when the catalog is given, for the analyzer
may need it. -/
def begin (s : Setup) : Except SetupError Assessment := do
  let some analyzer := s.analyzer | throw .noAnalyzer
  if s.edition ∉ analyzer.editions then
    throw (.unsupportedEdition analyzer.name s.edition analyzer.editions)
  let document ← match s.references with
    | none => pure none
    | some references =>
      match references s.edition with
      | .ok text => pure (some text)
      | .error e => throw (.reference e)
  let catalog ← match s.catalog, document with
    | some catalog, _ => pure catalog
    | none, some text => pure (.ofReference text)
    | none, none => throw (.reference (.missing s.edition))
  let reference := document.getD ""
  return {
    tool := analyzer.name
    edition := s.edition
    reference := reference
    reader := analyzer.reader s.edition reference
    tags := s.tags
    catalog := catalog }

def record (a : Assessment) (f : Fault) : Assessment :=
  { a with code := a.code.union f.code, faults := a.faults ++ [f] }

def recordAll (a : Assessment) (fs : List Fault) : Assessment := fs.foldl record a

def update (a : Assessment) (id : String) (f : Standing → Standing) : Assessment :=
  { a with catalog := a.catalog.update id f }

inductive PlanLine where
  | blank
  | faulty (f : Fault)
  | change (guideline : String) (new : Category)

/-- Read a line of the plan: an id, a comma and a category word. Whatever stands behind a second
comma is passed over. The first thing that is wrong with a line is its fault. -/
def planLine (catalog : Catalog) (line : String) : PlanLine :=
  let fields := (Text.split ',' line).map Text.trim
  let id := fields.getD 0 ""
  let token := fields.getD 1 ""
  if id = "" then .blank
  else
    match catalog.get? id with
    | none => .faulty (.planGuidelineNotFound id)
    | some g =>
      let new := Category.ofToken token
      if token = "" then .faulty (.malformedPlanLine line)
      else if new = .unknown then .faulty (.unknownPlanCategory token)
      else if g.category.canBecome new then .change id new
      else .faulty (.illegalRecategorization id g.category new)

def applyPlanLine (a : Assessment) (line : String) : Assessment :=
  match planLine a.catalog line with
  | .blank => a
  | .faulty f => a.record f
  | .change id new => a.update id (·.recategorize new)

def applyPlan (a : Assessment) (lines : List String) : Assessment := lines.foldl applyPlanLine a

/-- A reported violation. One without a guideline is passed over. -/
def addViolation (a : Assessment) (v : Violation) : Assessment :=
  if v.guideline = "" then a
  else
    match a.catalog.get? v.guideline with
    | none => a.record (.unknownWarning a.tool v.guideline v.file)
    | some g => if g.isDisapplied then a else a.update v.guideline Standing.recordViolation

def ingestWarnings (a : Assessment) (lines : List String) : Assessment :=
  lines.foldl (fun a line => (a.reader.violations line).foldl addViolation a) a

/-- Mark the false positives of a comment. A tag for all guidelines is the last one that counts;
a tag for a guideline that the comment does not suppress is a fault. -/
def markFalsePositives (text : String) : Comment → List TagScope → Comment × List Fault
  | c, [] => (c, [])
  | c, .all :: _ => (c.markAll Mark.asFalsePositive, [])
  | c, .one id :: scopes =>
    if id ∈ c.guidelines then markFalsePositives text (c.mark id Mark.asFalsePositive) scopes
    else
      let (c', faults) := markFalsePositives text c scopes
      (c', .falsePositiveNotSuppressed c.file id text :: faults)

def markDeviations (text : String) : Comment → List DeviationTag → Comment × List Fault
  | c, [] => (c, [])
  | c, ⟨d, .all⟩ :: _ => (c.markAll (Mark.asDeviation d), [])
  | c, ⟨d, .one id⟩ :: tags =>
    if id ∈ c.guidelines then markDeviations text (c.mark id (Mark.asDeviation d)) tags
    else
      let (c', faults) := markDeviations text c tags
      (c', .deviationNotSuppressed c.file id text :: faults)

/-- The guidelines that a comment suppresses: those that its tags name, or else those that the
analyzer makes out. -/
def suppressed (reader : Reader) (found : CommentTags) (text : String) : List String :=
  if found.guidelines.isEmpty then (reader.guidelines text).getD []
  else found.guidelines

/-- Read a suppression comment. It is dropped when it suppresses nothing, unless it is tagged as
having nothing to do with the guidelines. -/
def readComment (a : Assessment) (file : String) (line : Nat) (text : String) :
    Option Comment × List Fault :=
  let found := CommentTags.ofComment a.tags text
  let c : Comment := { file, line, isNonMisra := found.nonMisra }
  let (c, faults₁) := markFalsePositives text
    (c.insertAll (suppressed a.reader found text)) found.falsePositives
  let (c, faults₂) := markDeviations text c found.deviations
  if c.suppressions.isEmpty && !c.isNonMisra then
    (none, faults₁ ++ faults₂ ++ [.unresolvedSuppression file text])
  else (some c, faults₁ ++ faults₂)

/-- Find each comment behind the one before. A comment that is not found has line 0. -/
def locate (finder : LineFinder) : List String → List (Nat × String)
  | [] => []
  | text :: texts =>
    match finder.find? text with
    | some (line, finder) => (line, text) :: locate finder texts
    | none => (0, text) :: locate finder texts

def readComments (a : Assessment) (file source : String) : List Comment × List Fault :=
  let found := (locate (.ofText source) (a.reader.comments source)).map fun (line, text) =>
    a.readComment file line text
  (found.filterMap Prod.fst, found.flatMap Prod.snd)

/-- Apply a suppression of a kept comment. A false positive changes nothing. A deviation from a
mandatory guideline is illegal, whether or not it is recorded. -/
def applySuppression (a : Assessment) (file : String) (s : Suppression) : Assessment :=
  match a.catalog.get? s.guideline with
  | none => a.record (.unknownSuppression file s.guideline)
  | some g =>
    if s.mark.isFalsePositive then a
    else if !s.mark.isDeviation then a.update s.guideline Standing.recordViolation
    else
      let applied := a.update s.guideline (·.recordDeviation s.mark.deviation)
      if !g.isDisapplied && g.activeCategory = .mandatory then
        applied.record (.illegalDeviation file s.guideline)
      else applied

def applyComment (a : Assessment) (file : String) (c : Comment) : Assessment :=
  if c.isNonMisra then a
  else c.suppressions.foldl (fun a s => a.applySuppression file s) a

def ingestSource (sources : Sources) (a : Assessment) (file : String) : Assessment :=
  match sources file with
  | .error reason => a.record (.unreadableSource file reason)
  | .ok source =>
    let (comments, faults) := a.readComments file source
    let a := comments.foldl (fun a c => a.applyComment file c) (a.recordAll faults)
    { a with comments := a.comments ++ comments }

def ingestSources (a : Assessment) (files : List String) (sources : Sources) : Assessment :=
  files.foldl (ingestSource sources) a

def isCompliant (a : Assessment) : Bool := a.code.isEmpty && a.catalog.isCompliant

def summary (a : Assessment) : String := a.catalog.summary

def auditEntries (a : Assessment) : List AuditEntry :=
  AuditEntry.ofComments a.tool a.catalog a.comments

def auditLog (a : Assessment) : String := AuditEntry.log a.auditEntries

/-- Write the audit log to a sink. A sink that does not take all of it is a fault. -/
def writeLog (a : Assessment) (sink : Sink) (reason : String) : Assessment × Sink :=
  match sink.writeAll (AuditEntry.logPieces a.auditEntries) with
  | (sink, true) => (a, sink)
  | (sink, false) => (a.record (.unwritableLog "<audit log>" reason), sink)

end Assessment

end GuidelineCompliance
