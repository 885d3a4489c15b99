import GuidelineCompliance.Analyzer.Basic
import GuidelineCompliance.Pattern.Match

/-! Cppcheck. Its addon checks MISRA C 2012 only, and writes the number of a rule behind
`misra-c2012-`. -/

namespace GuidelineCompliance.Cppcheck

open Pattern

/-- A location in brackets, and then the rule in brackets of its own. -/
def warningPattern : Pattern :=
  .all [
    .char '[', .capture 1 (many (.noneOf [':'])), .char ':', .capture 2 (many1 .digit), .char ']',
    many (.noneOf ['[']), .lit "[misra-c2012-",
    .capture 3 (.all [many1 .digit, .set (.noneOf ['\n']), many1 .digit]), .char ']']

def suppressWord : Pattern := .all [many .blank, .lit "cppcheck-suppress", .set .blank]

def commentPattern : Pattern :=
  .alt
    (.all [.lit "//", .capture 1 (.all [suppressWord, many (.noneOf ['\n'])]),
      .anchor .freeLineEnd])
    (.all [.lit "/*", .capture 2 (.all [suppressWord, few .all]), .lit "*/"])

def rulePattern : Pattern :=
  .all [.lit "misra-c2012-", .capture 1 (.all [many1 .digit, .char '.', many1 .digit])]

def ruleId (number : String) : String := "Rule " ++ number

def violations (line : String) : List Violation :=
  ((warningPattern.find? line).map fun m =>
    { file := m.group 1
      line := (Text.readNumber 18446744073709551616 (m.group 2).toList).getD 0
      guideline := ruleId (m.group 3) }).toList

def comments (text : String) : List String :=
  (commentPattern.findAll text).filterMap fun m => (m.group? 1).or (m.group? 2)

def guidelines (comment : String) : Option (List String) :=
  some ((rulePattern.find? comment).map fun m => ruleId (m.group 1)).toList

def analyzer : Analyzer where
  name := "Cppcheck"
  editions := [.c2012]
  reader _ _ := { violations, comments, guidelines }

end GuidelineCompliance.Cppcheck
