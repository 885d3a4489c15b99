import GuidelineCompliance.CommandLine.Options
import GuidelineCompliance.Settings

/-! The commands of the program, and the arguments that give them. -/

namespace GuidelineCompliance.CommandLine

inductive ReportFormat where
  | text
  | json
  deriving DecidableEq, Repr

/-- What is asked for. `named` is the settings file that was named, if one was. -/
inductive Command where
  | check (root : Path) (named : Option Path) (format : ReportFormat)
      (overrides : Settings.Overrides)
  | listTools
  | init (force : Bool)
  | version
  | help

def commonOptions : List OptionSpec :=
  [⟨"verbose", some 'v', .flag⟩, ⟨"config", some 'c', .value⟩, ⟨"help", some 'h', .stop⟩]

def topOptions : List OptionSpec := commonOptions ++ [⟨"version", some 'V', .stop⟩]

def checkOptions : List OptionSpec :=
  commonOptions ++ [
    ⟨"tool", some 't', .value⟩, ⟨"misra-version", none, .value⟩, ⟨"warnings", some 'w', .value⟩,
    ⟨"sources", some 's', .value⟩, ⟨"grp", none, .value⟩, ⟨"log-file", none, .value⟩,
    ⟨"references", none, .value⟩, ⟨"format", some 'f', .value⟩,
    ⟨"fail-on-error", none, .optionalValue⟩, ⟨"fail-on-noncompliance", none, .optionalValue⟩]

def initOptions : List OptionSpec := commonOptions ++ [⟨"force", none, .flag⟩]

/-- The value of an option that is a path, which is never empty. -/
def pathOption (a : Arguments) (long : String) : Option (Option Path) :=
  match a.value? long with
  | none => some none
  | some p => if p = "" then none else some (some p)

def switchOption (a : Arguments) (long : String) : Option (Option Bool) :=
  match a.value? long with
  | none => some none
  | some "true" => some (some true)
  | some "false" => some (some false)
  | some _ => none

def formatOption (a : Arguments) : Option ReportFormat :=
  match a.value? "format" with
  | none => some .text
  | some "text" => some .text
  | some "json" => some .json
  | some _ => none

def rootArgument (a : Arguments) : Option Path :=
  match a.others with
  | [] => some "."
  | [root] => if root = "" then none else some root
  | _ => none

def checkCommand (top : Arguments) (a : Arguments) : Option Command := do
  let root ← rootArgument a
  let namedAtTop ← pathOption top "config"
  let named ← pathOption a "config"
  let format ← formatOption a
  return .check root (named.or namedAtTop) format {
    tool := a.value? "tool"
    edition := a.value? "misra-version"
    warnings := ← pathOption a "warnings"
    sources := ← pathOption a "sources"
    plan := ← pathOption a "grp"
    log := ← pathOption a "log-file"
    references := ← pathOption a "references"
    failOnFault := ← switchOption a "fail-on-error"
    failOnNoncompliance := ← switchOption a "fail-on-noncompliance" }

def plainCommand (top a : Arguments) (c : Command) : Option Command := do
  let _ ← pathOption top "config"
  let _ ← pathOption a "config"
  if a.others.isEmpty then some c else none

def readCommand (top : Arguments) (name : String) (args : List String) : Option Command :=
  let read (specs : List OptionSpec) (f : Arguments → Option Command) : Option Command :=
    match readArguments specs false args.length {} args with
    | .arguments a _ => f a
    | .stopped _ => some .help
    | .misused => none
  match name with
  | "check" => read checkOptions (checkCommand top)
  | "list-tools" => read commonOptions fun a => plainCommand top a .listTools
  | "init" => read initOptions fun a => plainCommand top a (.init (a.value? "force").isSome)
  | "help" => some .help
  | _ => none

def command? (args : List String) : Option Command :=
  match readArguments topOptions true args.length {} args with
  | .arguments top rest =>
    match top.others with
    | [name] => readCommand top name rest
    | _ => none
  | .stopped "version" => some .version
  | .stopped _ => some .help
  | .misused => none

end GuidelineCompliance.CommandLine
