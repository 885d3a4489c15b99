import GuidelineCompliance.Analyzer.Basic
import GuidelineCompliance.Report

/-! What is shown on a terminal: the report as a table with colours, the list of tools, and
failures. -/

namespace GuidelineCompliance.Terminal

inductive Colour where
  | red
  | green
  | yellow

def Colour.code : Colour → String
  | red => "31"
  | green => "32"
  | yellow => "33"

def coloured (c : Colour) (s : String) : String := "\x1b[" ++ c.code ++ "m" ++ s ++ "\x1b[0m"

/-- A text in a column of a width. A longer text is not cut. -/
def column (width : Nat) (s : String) : String :=
  s ++ String.ofList (List.replicate (width - s.length) ' ')

def rule (width : Nat) : String := String.ofList (List.replicate width '-')

def row (id category recategorization status : String) : String :=
  column 16 id ++ " " ++ column 12 category ++ " " ++ column 18 recategorization ++ " " ++ status

def statusText (g : Guideline) : String :=
  match g.status with
  | .violations => coloured .red "violations"
  | .deviations =>
    let references := g.standing.deviations.filterMap Deviation.reference
    coloured .yellow "deviations" ++
      (if references.isEmpty then "" else " (" ++ String.intercalate ", " references ++ ")")
  | status => status.name

def guidelineRow (g : Guideline) : String :=
  row g.id g.category.name ((g.standing.recategorization.map Category.name).getD "")
    (statusText g)

def projectLine (name version : Option String) : List String :=
  match name, version with
  | some name, some version => ["Project: " ++ name ++ " " ++ version]
  | some name, none => ["Project: " ++ name]
  | none, some version => ["Version: " ++ version]
  | none, none => []

def faultLines (faults : List Fault) : List String :=
  if faults.isEmpty then []
  else
    ["", coloured .red (toString faults.length ++ " error(s) during processing:")] ++
      faults.map fun f => "  - " ++ f.message

def reportLines (r : Report) (faults : List Fault) : List String :=
  [r.edition ++ " compliance summary (" ++ r.tool ++ ")"] ++
    projectLine r.projectName r.softwareVersion ++
    ["", row "Guideline" "Category" "Recategorization" "Compliance", rule 64] ++
    r.guidelines.map guidelineRow ++
    ["", r.summary] ++
    faultLines faults ++
    (r.notes.map (coloured .yellow)).toList ++
    ["", if r.compliant then coloured .green "Compliant" else coloured .red "Not compliant"]

def toolLine (a : Analyzer) : String :=
  column 12 a.name ++ " " ++ String.intercalate ", " (a.editions.map Edition.name)

def toolLines (tools : List Analyzer) : List String :=
  ["Supported tools:", "", column 12 "Tool" ++ " MISRA versions", rule 60] ++
    tools.map toolLine ++
    ["", "Select a tool with --tool or `tool` in misra-gcs.toml, e.g.:",
      "  misra-gcs check --tool pclint --warnings lint-output.txt",
      "  misra-gcs check --tool cppcheck --sources sources.txt"]

def failureLines (message : String) (causes : List String) : List String :=
  let numbered := causes.zipIdx.map fun (cause, i) =>
    if causes.length = 1 then "    " ++ cause else "    " ++ toString i ++ ": " ++ cause
  ["Error: " ++ message] ++ (if causes.isEmpty then [] else ["", "Caused by:"] ++ numbered)

def unlines (lines : List String) : String := String.join (lines.map (· ++ "\n"))

end GuidelineCompliance.Terminal
