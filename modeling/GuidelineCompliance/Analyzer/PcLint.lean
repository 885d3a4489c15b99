import GuidelineCompliance.Analyzer.Basic
import GuidelineCompliance.Pattern.Match

/-! PC-Lint. Its messages name guidelines in brackets. Its suppression comments name message
codes, and a reference document tells by `-append` options which guidelines a code stands for. -/

namespace GuidelineCompliance.PcLint

open Pattern

def editionMark : Pattern := opt true (.any [.lit "2004 ", .lit "2012 ", .lit "C++ "])

def categoryMark : Pattern :=
  opt true (.any [.lit ", advisory", .lit ", required", .lit ", mandatory"])

def appendPattern : Pattern :=
  .all [
    .lit "-append(", .capture 1 (many1 .digit), .lit ",[MISRA ", editionMark,
    .capture 2 (many1 (.noneOf [',', ']'])), many (.noneOf ['\n']), .lit "])"]

/-- A message: file, line, severity, code, text, and a first reference. -/
def messagePattern : Pattern :=
  .all [
    .anchor .textStart, .capture 1 (few (.noneOf ['\n'])), .char '(', .capture 2 (many1 .digit),
    .lit "): ", .any [.lit "Note", .lit "Info", .lit "Error", .lit "Warning"], .char ' ',
    many1 .digit, .lit ": ", many (.noneOf ['[']), .lit "[MISRA ", editionMark,
    many (.noneOf [',', ']']), categoryMark, .char ']']

def referencePattern : Pattern :=
  .all [
    .lit "[MISRA ", editionMark, .capture 1 (many (.noneOf [',', ']'])), categoryMark, .char ']']

def commentPattern : Pattern :=
  .alt
    (.all [.lit "//lint", many .blank, .capture 1 (many (.noneOf ['\n'])), .anchor .freeLineEnd])
    (.all [.lit "/*lint", many1 .blank, .capture 2 (few .all), .lit "*/"])

/-- An option that switches a message off. The code may be followed by arguments. -/
def optionPattern : Pattern :=
  .all [
    .anchor .textStart, .set (.ofList ['-', '!']), .char 'e',
    opt true (.any [.lit "sym(", .lit "func(", .lit "macro(", .lit "file(", .lit "template(",
      .lit "string(", .lit "call(", .lit "type("]),
    .capture 1 (many1 .digit),
    .any [
      .all [opt true (.char ':'), .char ',', many (.noneOf [')']), .char ')', many .blank],
      many .blank]]

/-- A message code has 32 bits. -/
def readCode (digits : String) : Option Nat := Text.readNumber 4294967296 digits.toList

/-- The guidelines that each code stands for, one entry for each option that was read. -/
abbrev CodeTable := List (Nat × String)

def codeTable (reference : String) : CodeTable :=
  (appendPattern.findAll reference).filterMap fun m =>
    (readCode (m.group 1)).map (·, m.group 2)

def CodeTable.guidelines? (table : CodeTable) (code : Nat) : Option (List String) :=
  match table.filter (·.1 = code) with
  | [] => none
  | entries => some (entries.map Prod.snd)

def violations (line : String) : List Violation :=
  match messagePattern.find? line with
  | none => []
  | some message =>
    let number := (Text.readNumber 18446744073709551616 (message.group 2).toList).getD 0
    (referencePattern.findAll line).map fun m =>
      { file := message.group 1, line := number, guideline := m.group 1 }

def comments (text : String) : List String :=
  (commentPattern.findAll text).filterMap fun m => (m.group? 1).or (m.group? 2)

/-- The codes of the options at the front of a comment. An option is never empty, so a comment has
no more options than characters. -/
def optionCodes : Nat → List Char → List String
  | 0, _ => []
  | n + 1, cs =>
    match optionPattern.findFrom (.ofText cs) with
    | none => []
    | some m => m.group 1 :: optionCodes n m.span.stop.rest

/-- The guidelines that a comment suppresses, each of them once. A code that the table does not
hold makes the whole comment undetermined. -/
def guidelines (table : CodeTable) (comment : String) : Option (List String) := do
  let cs := comment.toList
  let ids ← (optionCodes cs.length cs).mapM fun digits => (readCode digits).bind table.guidelines?
  return ids.flatten.eraseDups

def analyzer : Analyzer where
  name := "PC-Lint"
  editions := Edition.all
  reader _ reference :=
    let table := codeTable reference
    { violations, comments, guidelines := guidelines table }

end GuidelineCompliance.PcLint
