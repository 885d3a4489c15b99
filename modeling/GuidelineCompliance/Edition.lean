import GuidelineCompliance.Text.Blank

/-! The editions of the MISRA guidelines. -/

namespace GuidelineCompliance

inductive Edition where
  | c1998
  | c2004
  | c2012
  | cpp2008
  deriving DecidableEq, Repr, Inhabited

namespace Edition

def all : List Edition := [c1998, c2004, c2012, cpp2008]

def standard : Edition := c2012

/-- The edition that a selector such as `2012`, `C++` or `MISRA C 2004` names. The years and
letters are looked for in a fixed order, and a selector without any names the standard one. -/
def ofSelector (selector : String) : Edition :=
  let names (part : String) := Text.hasInfix part.toList (selector.toList.map Char.toUpper)
  if names "1998" then c1998
  else if names "CPP" || names "C++" then cpp2008
  else if names "2004" then c2004
  else standard

def name : Edition → String
  | c1998 => "MISRA C 1998"
  | c2004 => "MISRA C 2004"
  | c2012 => "MISRA C 2012"
  | cpp2008 => "MISRA C++ 2008"

def referenceFile : Edition → String
  | c1998 => "au-misra1.lnt"
  | c2004 => "au-misra2.lnt"
  | c2012 => "au-misra3.lnt"
  | cpp2008 => "au-misra-cpp.lnt"

end Edition

end GuidelineCompliance
