import GuidelineCompliance.Analyzer.Known
import GuidelineCompliance.Report
import GuidelineCompliance.Settings
import GuidelineCompliance.Workspace.Inputs

/-! Checks: a whole run over a workspace. The lists and the reference document are read first, and
nothing is written before they are all there; the audit log is the only file that a check
writes. -/

namespace GuidelineCompliance

inductive Failure where
  | unreadableSettings (p : Path) (e : FileFault)
  | invalidSettings (p : Path)
  | noTool
  | unknownTool (name : String)
  | unreadableInput (p : Path) (e : FileFault)
  | invalidTag (family : TagFamily)
  | setup (e : SetupError)
  | settingsExist
  | unwritableSettings (e : FileFault)
  deriving DecidableEq, Repr

/-- A setup error on one line: its code, its message, its cause and its help, as far as it has
them. -/
def SetupError.line (e : SetupError) : String :=
  let code := match e with
    | .reference r => r.code ++ " "
    | _ => ""
  let cause := match e with
    | .reference (.unreadable _ reason) => " " ++ reason
    | _ => ""
  let help := match e.help? with
    | some help => " help: " ++ help
    | none => ""
  code ++ e.message ++ cause ++ help

namespace Failure

def message : Failure → String
  | unreadableSettings p _ => "Failed to load config: " ++ p
  | invalidSettings p => "Failed to load config: " ++ p
  | noTool => "No tool configured. Use --tool or set `tool` in misra-gcs.toml"
  | unknownTool name => "Unknown tool \"" ++ name ++ "\". Run `misra-gcs list-tools`"
  | unreadableInput p _ => "Failed to read input file: " ++ p
  | invalidTag _ => "Invalid annotation tag"
  | setup e => e.line
  | settingsExist =>
    "Configuration file already exists at misra-gcs.toml. Use --force to overwrite."
  | unwritableSettings e => e.message

def causes : Failure → List String
  | unreadableSettings p e => ["Failed to read config file " ++ p ++ ": " ++ e.message, e.message]
  | invalidSettings _ => ["Failed to parse config"]
  | unreadableInput _ e => [e.message]
  | invalidTag family => ["Invalid " ++ family.name ++ " tag pattern"]
  | _ => []

end Failure

abbrev Attempt := ExceptT Failure FileTask

namespace Check

def firstFile? : List Path → FileTask (Option Path)
  | [] => pure none
  | p :: ps => do
    if (← FileTask.kindOf p) = some .file then return some p
    firstFile? ps

/-- Where the settings are: in the file that was named, or else in the workspace, or else in the
shared directory. -/
def locateSettings (root : Path) (named sharedDir : Option Path) : FileTask (Option Path) :=
  match named with
  | some p => pure (some p)
  | none =>
    let inWorkspace := Settings.workspaceFileNames.map root.join
    let shared := sharedDir.toList.map fun dir => dir.join Settings.sharedFileName
    firstFile? (inWorkspace ++ shared)

def readSettings (p : Path) : Attempt Settings := do
  match ← FileTask.readFile p with
  | .error e => throw (.unreadableSettings p e)
  | .ok content =>
    match content.toText? with
    | none => throw (.unreadableSettings p .invalidText)
    | some text =>
      match Settings.parse? text with
      | some settings => return settings
      | none => throw (.invalidSettings p)

/-- The settings for a workspace. Without a file they are the standard ones. -/
def loadSettings (root : Path) (named sharedDir : Option Path) : Attempt Settings := do
  match ← locateSettings root named sharedDir with
  | some p => readSettings p
  | none => return {}

def readLines (root : Path) (p : Option Path) : Attempt (List String) := do
  match p with
  | none => return []
  | some p =>
    match ← Workspace.readList root p with
    | (_, .ok lines) => return lines
    | (full, .error e) => throw (.unreadableInput full e)

def readReference (directory : Path) (edition : Edition) :
    FileTask (Except ReferenceError String) := do
  let p := directory.join edition.referenceFile
  match ← FileTask.readFile p with
  | .ok content => return .ok content.toTextLatin1
  | .error .notFound => return .error (.missing edition)
  | .error e => return .error (.unreadable p e.message)

def sourcesOf (texts : List (Path × Except FileFault String)) : Sources := fun file =>
  match texts.lookup file with
  | some (.ok text) => .ok text
  | some (.error e) => .error e.message
  | none => .error FileFault.notFound.message

end Check

/-- Write the audit log to a file anew. A file that cannot be written is a fault. -/
def Assessment.writeLogTo (a : Assessment) (p : Path) : FileTask Assessment := do
  match ← FileTask.writeFile p (.ofText a.auditLog) with
  | .ok () => return a
  | .error e => return a.record (.unwritableLog p e.message)

open Check in
/-- Check a workspace. The tags of a project of its own are patterns as `read` reads them. -/
def check (root : Path) (s : Settings) (read : String → Option Pattern := Pattern.parse?) :
    Attempt Assessment := do
  let some tool := s.tool | throw .noTool
  let some analyzer := Analyzer.ofName? tool | throw (.unknownTool tool)
  let warnings ← readLines root s.inputs.warnings
  let plan ← readLines root s.inputs.plan
  let entries ← readLines root s.inputs.sources
  let files ← Workspace.sourceFiles root entries
  let tags ← match TagPatterns.compile s.tags read with
    | .ok tags => pure tags
    | .error family => throw (.invalidTag family)
  let directory := (s.references.map root.join).getD root
  let reference ← readReference directory s.selectedEdition
  let started ← match Assessment.begin {
      analyzer := some analyzer
      edition := s.selectedEdition
      references := some fun _ => reference
      tags := tags } with
    | .ok a => pure a
    | .error e => throw (.setup e)
  let texts ← FileTask.forEach (Workspace.readSource root) files
  let finished := ((started.applyPlan plan).ingestWarnings warnings).ingestSources files
    (sourcesOf (files.zip texts))
  match s.inputs.log with
  | some p => finished.writeLogTo (root.join p)
  | none => return finished

end GuidelineCompliance
