import GuidelineCompliance.Analyzer.Cppcheck
import GuidelineCompliance.Analyzer.PcLint
import GuidelineCompliance.Text.CaseFold

/-! The analyzers that are known by name. -/

namespace GuidelineCompliance.Analyzer

def known : List Analyzer := [PcLint.analyzer, Cppcheck.analyzer]

/-- A name without its hyphens, underscores and spaces, in lower case. -/
def nameKey (name : String) : String :=
  String.ofList ((name.toList.filter fun c => c != '-' && c != '_' && c != ' ').map Text.lowerAscii)

def ofName? (name : String) : Option Analyzer :=
  match nameKey name with
  | "pclint" => some PcLint.analyzer
  | "pclintplus" => some PcLint.analyzer
  | "cppcheck" => some Cppcheck.analyzer
  | _ => none

end GuidelineCompliance.Analyzer
