import GuidelineCompliance.Guideline
import GuidelineCompliance.Link
import GuidelineCompliance.Pattern.Match
import GuidelineCompliance.Pattern.Parser

/-! Tags. A suppression comment tells by tags which guidelines it suppresses, whether it has to do
with the guidelines at all, and which suppressions are false positives or deviations. Each family
of tags has a pattern, and a project may write patterns of its own. -/

namespace GuidelineCompliance

inductive TagFamily where
  | guideline
  | nonMisra
  | falsePositive
  | deviation
  deriving DecidableEq, Repr

namespace TagFamily

def name : TagFamily → String
  | guideline => "guideline"
  | nonMisra => "non_misra"
  | falsePositive => "false_positive"
  | deviation => "deviation"

/-- The written form of the family's standard pattern. -/
def standardText : TagFamily → String
  | guideline => "\\bGUIDELINE\\(([^\\)]*)\\)"
  | nonMisra => "\\bNON.?MISRA"
  | falsePositive => "\\bFALSE.?POSITIVE(?:\\(([^\\)]*)\\))?"
  | deviation =>
    "\\bDEVIATION\\(\\s*([^,\\(\\)]*?)\\s*(?:\\)|,\\s*([^,\\(\\)]*?)\\s*(?:\\)|,\\s*" ++
      "([^\\(\\)]*?)\\s*\\)))"

open Pattern in
def field (group : Nat) (ends : List Char) (next : Pattern) : List Pattern :=
  [many .blank, .capture group (few (.noneOf ends)), many .blank, next]

open Pattern in
def standard : TagFamily → Pattern
  | guideline =>
    .all ([.anchor .wordEdge] ++ "GUIDELINE(".toList.map char ++
      [.capture 1 (many (.noneOf [')'])), .char ')'])
  | nonMisra =>
    .all ([.anchor .wordEdge] ++ "NON".toList.map char ++
      [opt true (.set (.noneOf ['\n']))] ++ "MISRA".toList.map char)
  | falsePositive =>
    .all ([.anchor .wordEdge] ++ "FALSE".toList.map char ++
      [opt true (.set (.noneOf ['\n']))] ++ "POSITIVE".toList.map char ++
      [opt true (.all [.char '(', .capture 1 (many (.noneOf [')'])), .char ')'])])
  | deviation =>
    let id : Pattern := .all (.char ',' :: field 3 ['(', ')'] (.char ')'))
    let link : Pattern := .all (.char ',' :: field 2 [',', '(', ')'] (.alt (.char ')') id))
    .all ([.anchor .wordEdge] ++ "DEVIATION(".toList.map char ++
      field 1 [',', '(', ')'] (.alt (.char ')') link))

end TagFamily

/-- The written patterns that a project has of its own. -/
structure TagTexts where
  guideline : Option String := none
  nonMisra : Option String := none
  falsePositive : Option String := none
  deviation : Option String := none
  deriving DecidableEq, Repr, Inhabited

namespace TagTexts

def own (t : TagTexts) : TagFamily → Option String
  | .guideline => t.guideline
  | .nonMisra => t.nonMisra
  | .falsePositive => t.falsePositive
  | .deviation => t.deviation

def text (t : TagTexts) (family : TagFamily) : String :=
  (t.own family).getD family.standardText

end TagTexts

/-- The patterns of the four families. Group 1 of the guideline and the false-positive pattern is
an id; groups 1 to 3 of the deviation pattern are a reference, a link and an id. -/
structure TagPatterns where
  guideline : Pattern
  nonMisra : Pattern
  falsePositive : Pattern
  deviation : Pattern

namespace TagPatterns

def standard : TagPatterns :=
  ⟨TagFamily.guideline.standard, TagFamily.nonMisra.standard, TagFamily.falsePositive.standard,
    TagFamily.deviation.standard⟩

def compileOne (t : TagTexts) (read : String → Option Pattern) (family : TagFamily) :
    Except TagFamily Pattern :=
  match t.own family with
  | none => .ok family.standard
  | some text =>
    match read text with
    | some p => .ok p
    | none => .error family

def compile (t : TagTexts) (read : String → Option Pattern := Pattern.parse?) :
    Except TagFamily TagPatterns := do
  return ⟨← compileOne t read .guideline, ← compileOne t read .nonMisra,
    ← compileOne t read .falsePositive, ← compileOne t read .deviation⟩

end TagPatterns

/-- What a tag is about: all guidelines of its comment, or one. -/
inductive TagScope where
  | all
  | one (guideline : String)
  deriving DecidableEq, Repr

structure DeviationTag where
  deviation : Deviation
  scope : TagScope
  deriving DecidableEq, Repr

structure CommentTags where
  guidelines : List String := []
  nonMisra : Bool := false
  falsePositives : List TagScope := []
  deviations : List DeviationTag := []
  deriving DecidableEq, Repr

namespace CommentTags

/-- A field without the blanks around it. A blank field is an absent one. -/
def field? (m : Pattern.Match) (group : Nat) : Option String :=
  ((m.group? group).map Text.trim).filter (· ≠ "")

/-- A tag without an id is about all guidelines, one with a blank id about a guideline without
name. -/
def scope (m : Pattern.Match) (group : Nat) : TagScope :=
  match m.group? group with
  | some id => .one (Text.trim id)
  | none => .all

def deviationTag (m : Pattern.Match) : DeviationTag :=
  ⟨⟨field? m 1, (field? m 2).map Link.restore⟩, scope m 3⟩

def ofComment (tags : TagPatterns) (comment : String) : CommentTags where
  guidelines := ((tags.guideline.findAll comment).filterMap (field? · 1)).eraseDups
  nonMisra := tags.nonMisra.isMatch comment
  falsePositives := (tags.falsePositive.findAll comment).map (scope · 1)
  deviations := (tags.deviation.findAll comment).map deviationTag

end CommentTags

end GuidelineCompliance
