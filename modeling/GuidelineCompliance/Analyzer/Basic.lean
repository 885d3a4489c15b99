import GuidelineCompliance.Edition

/-! Static analysis tools, as far as a run needs them: how a tool reports violations, how its
suppression comments look, and which guidelines such a comment suppresses. -/

namespace GuidelineCompliance

/-- A violation that an analyzer reports. Line 0 stands for an unknown line. -/
structure Violation where
  file : String
  line : Nat
  guideline : String
  deriving DecidableEq, Repr

structure Reader where
  /-- The violations that a line of the analyzer's output reports. -/
  violations : String → List Violation
  /-- The suppression comments of a source text, in order. -/
  comments : String → List String
  /-- The guidelines that a comment suppresses, or `none` when that cannot be told. -/
  guidelines : String → Option (List String)

/-- A static analysis tool. What it reads may depend on the edition and on the text of the
edition's reference document. -/
structure Analyzer where
  name : String
  editions : List Edition
  reader : Edition → String → Reader

end GuidelineCompliance
