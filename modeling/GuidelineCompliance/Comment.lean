import GuidelineCompliance.Guideline

/-! Suppression comments. A comment suppresses some guidelines, each of them once and in the order
in which they were first named, and marks each suppression. -/

namespace GuidelineCompliance

structure Mark where
  isFalsePositive : Bool := false
  isDeviation : Bool := false
  deviation : Deviation := {}
  deriving DecidableEq, Repr, Inhabited

namespace Mark

def asFalsePositive (m : Mark) : Mark := { m with isFalsePositive := true }

def asDeviation (d : Deviation) (m : Mark) : Mark := { m with isDeviation := true, deviation := d }

end Mark

structure Suppression where
  guideline : String
  mark : Mark := {}
  deriving DecidableEq, Repr, Inhabited

/-- A suppression comment. Line 0 stands for a comment whose line is not known. -/
structure Comment where
  file : String
  line : Nat
  isNonMisra : Bool := false
  suppressions : List Suppression := []
  deriving DecidableEq, Repr, Inhabited

namespace Comment

def guidelines (c : Comment) : List String := c.suppressions.map Suppression.guideline

def get? (c : Comment) (guideline : String) : Option Suppression :=
  c.suppressions.find? (·.guideline = guideline)

def mark (c : Comment) (guideline : String) (f : Mark → Mark) : Comment :=
  { c with
    suppressions := c.suppressions.map fun s =>
      if s.guideline = guideline then { s with mark := f s.mark } else s }

def markAll (c : Comment) (f : Mark → Mark) : Comment :=
  { c with suppressions := c.suppressions.map fun s => { s with mark := f s.mark } }

/-- Suppress a guideline. A suppression of the same guideline is replaced where it stands. -/
def insert (c : Comment) (s : Suppression) : Comment :=
  if s.guideline ∈ c.guidelines then c.mark s.guideline fun _ => s.mark
  else { c with suppressions := c.suppressions ++ [s] }

def insertAll (c : Comment) (guidelines : List String) : Comment :=
  guidelines.foldl (fun c id => c.insert { guideline := id }) c

end Comment

end GuidelineCompliance
