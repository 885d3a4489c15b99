import GuidelineCompliance.Edition
import GuidelineCompliance.Fault
import GuidelineCompliance.Tag
import GuidelineCompliance.Toml.Document
import GuidelineCompliance.Workspace.Path

/-! Settings of a run, as a project's settings file gives them and as the command line overrides
them. -/

namespace GuidelineCompliance

structure InputFiles where
  warnings : Option Path := none
  sources : Option Path := none
  plan : Option Path := none
  log : Option Path := none
  deriving DecidableEq, Repr, Inhabited

structure Policy where
  failOnFault : Bool := true
  failOnNoncompliance : Bool := false
  deriving DecidableEq, Repr, Inhabited

/-- Whether a run with this fault code and this verdict fails. -/
def Policy.fails (p : Policy) (code : FaultCode) (compliant : Bool) : Bool :=
  (p.failOnFault && !code.isEmpty) || (p.failOnNoncompliance && !compliant)

structure Settings where
  tool : Option String := none
  edition : Option String := none
  references : Option Path := none
  projectName : Option String := none
  softwareVersion : Option String := none
  inputs : InputFiles := {}
  tags : TagTexts := {}
  policy : Policy := {}
  deriving DecidableEq, Repr, Inhabited

namespace Settings

def selectedEdition (s : Settings) : Edition := (s.edition.map Edition.ofSelector).getD .standard

def textField (v : Option Toml.Value) : Option (Option String) :=
  match v with
  | none => some none
  | some v => v.text?.map some

def switchField (ifAbsent : Bool) (v : Option Toml.Value) : Option Bool :=
  match v with
  | none => some ifAbsent
  | some v => v.switch?

def sectionFields (v : Option Toml.Value) : Option (Nat → String → Option Toml.Value) :=
  match v with
  | none => some fun _ _ => none
  | some v => v.fields?

/-- The settings of a table. Keys without a meaning are passed over, and a value of a wrong kind
makes the whole table no settings. -/
def ofEntries? (entries : Toml.Entries) : Option Settings := do
  let top := fun key => textField (entries.lookup key)
  let inputs ← sectionFields (entries.lookup "inputs")
  let tags ← sectionFields (entries.lookup "tags")
  let policy ← sectionFields (entries.lookup "policy")
  return {
    tool := ← top "tool"
    edition := ← top "misra_version"
    references := ← top "references"
    projectName := ← top "project_name"
    softwareVersion := ← top "software_version"
    inputs := {
      warnings := ← textField (inputs 0 "warnings")
      sources := ← textField (inputs 1 "sources")
      plan := ← textField (inputs 2 "grp")
      log := ← textField (inputs 3 "log_file") }
    tags := {
      guideline := ← textField (tags 0 "guideline")
      nonMisra := ← textField (tags 1 "non_misra")
      falsePositive := ← textField (tags 2 "false_positive")
      deviation := ← textField (tags 3 "deviation") }
    policy := {
      failOnFault := ← switchField true (policy 0 "fail_on_error")
      failOnNoncompliance := ← switchField false (policy 1 "fail_on_noncompliance") } }

def parse? (s : String) : Option Settings := (Toml.parse? s).bind ofEntries?

structure Overrides where
  tool : Option String := none
  edition : Option String := none
  warnings : Option Path := none
  sources : Option Path := none
  plan : Option Path := none
  log : Option Path := none
  references : Option Path := none
  failOnFault : Option Bool := none
  failOnNoncompliance : Option Bool := none
  deriving DecidableEq, Repr, Inhabited

def override (s : Settings) (o : Overrides) : Settings :=
  { s with
    tool := o.tool.or s.tool
    edition := o.edition.or s.edition
    references := o.references.or s.references
    inputs := {
      warnings := o.warnings.or s.inputs.warnings
      sources := o.sources.or s.inputs.sources
      plan := o.plan.or s.inputs.plan
      log := o.log.or s.inputs.log }
    policy := {
      failOnFault := o.failOnFault.getD s.policy.failOnFault
      failOnNoncompliance := o.failOnNoncompliance.getD s.policy.failOnNoncompliance } }

def fileName : String := "misra-gcs.toml"

def workspaceFileNames : List String := [fileName, ".misra-gcs.toml"]

def sharedFileName : String := "config.toml"

end Settings

end GuidelineCompliance
