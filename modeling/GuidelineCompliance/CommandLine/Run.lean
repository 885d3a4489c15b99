import GuidelineCompliance.Check
import GuidelineCompliance.CommandLine.Command
import GuidelineCompliance.Json
import GuidelineCompliance.Terminal

/-! What each command does: what it prints, how it ends, and the settings file that a new project
begins with. -/

namespace GuidelineCompliance.CommandLine

inductive Outcome where
  | misused
  | finished (exit : Nat) (output : String)
  | failed (f : Failure)

def versionText : String := "misra-gcs 0.3.0"

def usageLines : List String := [
  "Usage: misra-gcs [OPTIONS] <COMMAND>",
  "",
  "Commands:",
  "  check       Produce a guideline compliance summary",
  "  list-tools  List supported static analysis tools",
  "  init        Initialize configuration file"]

def initialSettings : String := Terminal.unlines [
  "# misra-gcs configuration",
  "",
  "# Static analysis tool: \"PC-Lint\" or \"Cppcheck\"",
  "tool = \"PC-Lint\"",
  "",
  "# MISRA version: \"1998\", \"2004\", \"2012\" or \"C++\"",
  "misra_version = \"2012\"",
  "",
  "# Directory holding the reference document for the MISRA version",
  "# (au-misra1.lnt, au-misra2.lnt, au-misra3.lnt or au-misra-cpp.lnt)",
  "# references = \"lint\"",
  "",
  "# Shown in the compliance report",
  "# project_name = \"My project\"",
  "# software_version = \"1.0.0\"",
  "",
  "[inputs]",
  "# Analyzer output, one warning per line",
  "warnings = \"lint-output.txt\"",
  "",
  "# Source files to scan for suppression comments, one path or glob per line",
  "sources = \"sources.txt\"",
  "",
  "# Guideline recategorization plan: \"<guideline id>, <category>\" per line",
  "# grp = \"grp.txt\"",
  "",
  "# Audit log of every suppression comment",
  "# log_file = \"misra-audit.log\"",
  "",
  "# Annotation tag patterns (regular expressions). Defaults shown.",
  "[tags]",
  "# guideline = '" ++ TagFamily.guideline.standardText ++ "'",
  "# non_misra = '" ++ TagFamily.nonMisra.standardText ++ "'",
  "# false_positive = '" ++ TagFamily.falsePositive.standardText ++ "'",
  "# deviation = '" ++ TagFamily.deviation.standardText ++ "'",
  "",
  "[policy]",
  "# Fail when errors occur during processing",
  "fail_on_error = true",
  "",
  "# Fail when required or mandatory guidelines have violations",
  "fail_on_noncompliance = false"]

def initLines : List String := [
  "Created misra-gcs.toml",
  "",
  "Next steps:",
  "  1. Edit misra-gcs.toml to point at your analyzer output and sources",
  "  2. Run: misra-gcs check"]

def reportText (format : ReportFormat) (s : Settings) (a : Assessment) : String :=
  let report := Report.ofAssessment a s.projectName s.softwareVersion
  match format with
  | .text => Terminal.unlines (Terminal.reportLines report a.faults)
  | .json => Terminal.unlines [report.toJson.text]

def runCheck (sharedDir : Option Path) (root : Path) (named : Option Path) (format : ReportFormat)
    (overrides : Settings.Overrides) : Attempt Outcome := do
  let settings := (← Check.loadSettings root named sharedDir).override overrides
  let a ← check root settings
  let exit := if settings.policy.fails a.code a.isCompliant then 1 else 0
  return .finished exit (reportText format settings a)

/-- Write the settings file of a new project, over another one only if that is forced. -/
def runInit (force : Bool) : Attempt Outcome := do
  let there ← FileTask.kindOf Settings.fileName
  if there.isSome && !force then throw .settingsExist
  match ← FileTask.writeFile Settings.fileName (.ofText initialSettings) with
  | .ok () => return .finished 0 (Terminal.unlines initLines)
  | .error e => throw (.unwritableSettings e)

def Command.run (sharedDir : Option Path) (c : Command) : FileTask Outcome := do
  let attempt : Attempt Outcome := match c with
    | .check root named format overrides => runCheck sharedDir root named format overrides
    | .listTools => return .finished 0 (Terminal.unlines (Terminal.toolLines Analyzer.known))
    | .init force => runInit force
    | .version => return .finished 0 (Terminal.unlines [versionText])
    | .help => return .finished 0 (Terminal.unlines usageLines)
  match ← attempt.run with
  | .ok outcome => return outcome
  | .error f => return .failed f

/-- The directory of settings that projects share: the one of the environment, or else one in the
home directory. -/
def sharedDirectory (configured home : Option Path) : Option Path :=
  configured.or (home.map (·.join ".misra-gcs"))

def run (configured home : Option Path) (args : List String) : FileTask Outcome :=
  match command? args with
  | none => pure .misused
  | some c => c.run (sharedDirectory configured home)

end GuidelineCompliance.CommandLine
