import GuidelineCompliance.Assessment

/-! The report of a run: the verdict, the summary and the final state of each guideline. -/

namespace GuidelineCompliance

structure Report where
  projectName : Option String
  softwareVersion : Option String
  edition : String
  tool : String
  compliant : Bool
  summary : String
  notes : Option String
  code : FaultCode
  guidelines : List Guideline

namespace Report

def invalidNote : String :=
  "Errors occurred during processing. This report is not valid. " ++
    "See console output for details."

def ofAssessment (a : Assessment) (projectName softwareVersion : Option String) : Report where
  projectName := projectName
  softwareVersion := softwareVersion
  edition := a.edition.name
  tool := a.tool
  compliant := a.isCompliant
  summary := a.summary
  notes := if a.code.isEmpty then none else some invalidNote
  code := a.code
  guidelines := a.catalog.guidelines

end Report

end GuidelineCompliance
