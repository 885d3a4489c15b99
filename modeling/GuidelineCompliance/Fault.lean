import GuidelineCompliance.Guideline

/-! Faults: what goes wrong in a run without ending it. Each fault has a kind, and a fault code is
the set of the kinds seen, one bit for each. -/

namespace GuidelineCompliance

/-- The kinds of fault, in the order of their bits. -/
inductive FaultKind where
  | guidelineNotFound
  | unresolvedSuppression
  | recategorizationPlan
  | illegalDeviation
  | fileRead
  | fileWrite
  deriving DecidableEq, Repr

namespace FaultKind

def all : List FaultKind :=
  [guidelineNotFound, unresolvedSuppression, recategorizationPlan, illegalDeviation, fileRead,
    fileWrite]

def bit : FaultKind → UInt32
  | guidelineNotFound => 1
  | unresolvedSuppression => 2
  | recategorizationPlan => 4
  | illegalDeviation => 8
  | fileRead => 16
  | fileWrite => 32

def name : FaultKind → String
  | guidelineNotFound => "GuidelineNotFound"
  | unresolvedSuppression => "UnresolvedSuppression"
  | recategorizationPlan => "GrpError"
  | illegalDeviation => "IllegalDeviation"
  | fileRead => "FileReadError"
  | fileWrite => "FileWriteError"

end FaultKind

structure FaultCode where
  bits : UInt32 := 0
  deriving DecidableEq, Repr, Inhabited

namespace FaultCode

def none : FaultCode := ⟨0⟩

def ofKind (k : FaultKind) : FaultCode := ⟨k.bit⟩

def isEmpty (c : FaultCode) : Bool := c.bits == 0

def contains (c d : FaultCode) : Bool := c.bits &&& d.bits == d.bits

def union (c d : FaultCode) : FaultCode := ⟨c.bits ||| d.bits⟩

def kinds (c : FaultCode) : List FaultKind := FaultKind.all.filter (c.contains <| ofKind ·)

def text (c : FaultCode) : String :=
  if c.isEmpty then "none" else String.intercalate " | " (c.kinds.map FaultKind.name)

end FaultCode

inductive Fault where
  | unknownWarning (tool guideline file : String)
  | unknownSuppression (file guideline : String)
  | falsePositiveNotSuppressed (file guideline comment : String)
  | deviationNotSuppressed (file guideline comment : String)
  | unresolvedSuppression (file comment : String)
  | planGuidelineNotFound (guideline : String)
  | malformedPlanLine (line : String)
  | unknownPlanCategory (token : String)
  | illegalRecategorization (guideline : String) (old new : Category)
  | illegalDeviation (file guideline : String)
  | unreadableSource (file reason : String)
  | unwritableLog (path reason : String)
  deriving DecidableEq, Repr

namespace Fault

def kind : Fault → FaultKind
  | unknownWarning .. => .guidelineNotFound
  | unknownSuppression .. => .guidelineNotFound
  | falsePositiveNotSuppressed .. => .guidelineNotFound
  | deviationNotSuppressed .. => .guidelineNotFound
  | unresolvedSuppression .. => .unresolvedSuppression
  | planGuidelineNotFound .. => .recategorizationPlan
  | malformedPlanLine .. => .recategorizationPlan
  | unknownPlanCategory .. => .recategorizationPlan
  | illegalRecategorization .. => .recategorizationPlan
  | illegalDeviation .. => .illegalDeviation
  | unreadableSource .. => .fileRead
  | unwritableLog .. => .fileWrite

def code (f : Fault) : FaultCode := .ofKind f.kind

private def notSuppressed (tag file guideline comment : String) : String :=
  file ++ ": " ++ tag ++ " tag found for the guideline " ++ guideline ++
    ", but this guideline is not suppressed by the comment \"" ++ comment ++ "\""

def message : Fault → String
  | unknownWarning tool guideline file =>
    tool ++ " warns about the guideline \"" ++ guideline ++ "\" in file \"" ++ file ++
      "\", but no such guideline is found in the selected MISRA version"
  | unknownSuppression file guideline =>
    file ++ ": suppression comment for the guideline " ++ guideline ++
      ", but the guideline was not found"
  | falsePositiveNotSuppressed file guideline comment =>
    notSuppressed "false positive" file guideline comment
  | deviationNotSuppressed file guideline comment =>
    notSuppressed "deviation" file guideline comment
  | unresolvedSuppression file comment =>
    file ++ ": could not determine which guideline is suppressed by the comment \"" ++ comment ++
      "\". Add a GUIDELINE(<guideline id>) or NONMISRA tag to the comment"
  | planGuidelineNotFound guideline =>
    "the guideline \"" ++ guideline ++ "\" was found in the guideline recategorization plan " ++
      "(GRP), but no corresponding guideline was found in the current MISRA rule set"
  | malformedPlanLine line =>
    "the line \"" ++ line ++ "\" in the GRP is not a valid recategorization; each line should " ++
      "contain a guideline id followed by the new category, separated by a comma, e.g. " ++
      "\"Rule 1.1, required\""
  | unknownPlanCategory token =>
    "\"" ++ token ++ "\" in the guideline recategorization plan (GRP) was not recognized as a " ++
      "valid MISRA compliance category"
  | illegalRecategorization guideline old new =>
    "illegal recategorization of " ++ guideline ++ ": cannot recategorize " ++ old.name ++
      " guideline to " ++ new.name
  | illegalDeviation file guideline =>
    file ++ ": " ++ guideline ++ " is mandatory, and deviations are illegal"
  | unreadableSource file reason => "unable to open file \"" ++ file ++ "\": " ++ reason
  | unwritableLog path reason => "unable to write to log file \"" ++ path ++ "\": " ++ reason

end Fault

end GuidelineCompliance
