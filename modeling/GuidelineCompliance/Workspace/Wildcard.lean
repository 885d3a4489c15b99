import GuidelineCompliance.Workspace.FileTask

/-! Wildcards: paths with `?`, `*`, `**` and brackets, which stand for all paths of a file tree
that they match. Letter case counts, and a star also takes a dot at the front of a name. Names are
matched one by one, and `**` takes any number of directories. -/

namespace GuidelineCompliance.Wildcard

structure CharRange where
  low : Char
  high : Char
  deriving DecidableEq, Repr

inductive Token where
  | char (c : Char)
  | anyChar
  | anyText
  | anyDirectories
  | within (ranges : List CharRange)
  | except (ranges : List CharRange)
  deriving DecidableEq, Repr

def readRanges : List Char → List CharRange
  | low :: '-' :: high :: rest => ⟨low, high⟩ :: readRanges rest
  | c :: rest => ⟨c, c⟩ :: readRanges rest
  | [] => []

/-- Read a bracket from behind its opening sign. Its first character is a member even if it is the
closing sign. -/
def readBracket (cs : List Char) : Option (Token × List Char) :=
  let (token, cs) : (List CharRange → Token) × List Char := match cs with
    | '!' :: rest => (.except, rest)
    | _ => (.within, cs)
  match cs with
  | [] => none
  | c :: cs =>
    match cs.dropWhile (· != ']') with
    | _ :: rest => some (token (readRanges (c :: cs.takeWhile (· != ']'))), rest)
    | [] => none

/-- Read stars. Two of them have to be a whole segment, and there are never more. -/
def readStars (before : Option Char) (count : Nat) (rest : List Char) :
    Option (Token × List Char) :=
  match count with
  | 1 => some (.anyText, rest)
  | 2 =>
    if before = none || before = some '/' then
      match rest with
      | [] => some (.anyDirectories, [])
      | '/' :: rest => some (.anyDirectories, rest)
      | _ => none
    else none
  | _ => none

def readToken (before : Option Char) (c : Char) (rest : List Char) : Option (Token × List Char) :=
  match c with
  | '?' => some (.anyChar, rest)
  | '*' =>
    let more := rest.takeWhile (· == '*')
    readStars before (more.length + 1) (rest.drop more.length)
  | '[' => readBracket rest
  | _ => some (.char c, rest)

/-- Read a text to its end. Every token takes a character. -/
def readTokens : Nat → Option Char → List Char → Option (List Token)
  | _, _, [] => some []
  | 0, _, _ => none
  | n + 1, before, c :: rest =>
    match readToken before c rest with
    | none => none
    | some (.anyDirectories, rest) =>
      (readTokens n (some '/') rest).map (.anyDirectories :: ·)
    | some (token, rest) => (readTokens n (some c) rest).map (token :: ·)

def tokens? (cs : List Char) : Option (List Token) := readTokens cs.length none cs

def suffixes {α : Type} : List α → List (List α)
  | [] => [[]]
  | a :: as => (a :: as) :: suffixes as

def inRanges (ranges : List CharRange) (c : Char) : Bool :=
  ranges.any fun r => r.low ≤ c && c ≤ r.high

def isMatch : List Token → List Char → Bool
  | [], cs => cs.isEmpty
  | .anyText :: ts, cs => (suffixes cs).any (isMatch ts)
  | .anyDirectories :: ts, cs => isMatch ts cs
  | .char a :: ts, c :: cs => a == c && isMatch ts cs
  | .anyChar :: ts, _ :: cs => isMatch ts cs
  | .within ranges :: ts, c :: cs => inRanges ranges c && isMatch ts cs
  | .except ranges :: ts, c :: cs => !inRanges ranges c && isMatch ts cs
  | _, [] => false

/-- A segment of a wildcard: a name as it stands, any directories, or tokens that a name has to
match. -/
inductive Segment where
  | name (s : String)
  | directories
  | tokens (ts : List Token)

def plain? (ts : List Token) : Option (List Char) :=
  ts.mapM fun
    | .char c => some c
    | _ => none

def Segment.ofTokens (ts : List Token) : Segment :=
  match plain? ts with
  | some cs => .name (String.ofList cs)
  | none => if ts.contains .anyDirectories then .directories else .tokens ts

/-- A wildcard path: where its search starts, its segments, and whether it asks for directories
only. -/
structure Glob where
  start : Path
  segments : List Segment
  directoriesOnly : Bool

def splitSegments (cs : List Char) : List (List Char) :=
  let pieces := Text.splitOn '/' cs
  if pieces.getLast? = some [] then pieces.dropLast else pieces

/-- The wildcard that a text writes. It has to be well formed as a whole and segment by segment. -/
def parse? (p : Path) : Option Glob := do
  let cs := p.toList
  let _ ← tokens? cs
  let segments ← (splitSegments (if p.isAbsolute then cs.drop 1 else cs)).mapM tokens?
  return {
    start := if p.isAbsolute then "/" else "."
    segments := segments.map Segment.ofTokens
    directoriesOnly := cs.getLast? = some '/' }

def isCurrent (p : Path) : Bool := p.components = [.current]

def entryPath (directory : Path) (name : String) : Path :=
  if isCurrent directory then name else directory.join name

/-- A dot stands for itself and two dots for the parent only where a segment starts with a dot. -/
def specialNames : Segment → List String
  | .tokens (.char '.' :: ts) =>
    ["..", "."].filter fun name => isMatch (.char '.' :: ts) name.toList
  | _ => []

def enter (search : List Segment → Path → FileTask (List Path)) (name : String) (p : Path) :
    List Segment → FileTask (List Path)
  | [] => pure []
  | segment :: segments =>
    let matched := match segment with
      | .name s => s = name
      | .directories => true
      | .tokens ts => isMatch ts name.toList
    if !matched then pure []
    else if segments.isEmpty then pure [p]
    else search segments p

/-- Segments without the further `**` at the front, which add nothing to the first. -/
def dropDirectories : List Segment → List Segment
  | .directories :: segments => dropDirectories segments
  | segments => segments

def visit (search : List Segment → Path → FileTask (List Path)) (directory : Path)
    (segment : Segment) (segments : List Segment) (name : String) : FileTask (List Path) := do
  let p := entryPath directory name
  match segment with
  | .directories =>
    let after := dropDirectories segments
    if (← FileTask.kindOf p) = some .directory then
      let here ← if after.isEmpty then pure [p] else enter search name p after
      return here ++ (← search (.directories :: after) p)
    else enter search name p after
  | _ => enter search name p (segment :: segments)

def goOn (search : List Segment → Path → FileTask (List Path)) (segments : List Segment)
    (p : Path) : FileTask (List Path) :=
  if segments.isEmpty then pure [p] else search segments p

/-- Search for a name as it stands. The directory itself has to be there for a dot or two. -/
def searchName (search : List Segment → Path → FileTask (List Path)) (s : String)
    (segments : List Segment) (directory : Path) : FileTask (List Path) := do
  let p := if isCurrent directory then s else directory.join s
  let there ← if s = "." || s = ".." then FileTask.kindOf directory else FileTask.kindOf p
  if s = "." || s = ".." then
    if there = some .directory then goOn search segments p else pure []
  else if there.isSome then goOn search segments p
  else pure []

/-- Search a directory for a segment that its entries may match, in the order of their names. -/
def searchEntries (search : List Segment → Path → FileTask (List Path)) (segment : Segment)
    (segments : List Segment) (directory : Path) : FileTask (List Path) := do
  if (← FileTask.kindOf directory) = some .directory then
    let special ← FileTask.forEach (fun name => goOn search segments (directory.join name))
      (specialNames segment)
    let names := (← FileTask.entriesOf directory).mergeSort fun a b => a ≤ b
    let found ← FileTask.forEach (visit search directory segment segments) names
    return special.flatten ++ found.flatten
  else pure []

/-- The paths below a directory that match segments. Each round goes one segment or one directory
further, so a limit on the rounds is a limit on the length of a path. -/
def searchIn : Nat → List Segment → Path → FileTask (List Path)
  | 0, _, _ => pure []
  | _, [], _ => pure []
  | n + 1, .name s :: segments, directory => searchName (searchIn n) s segments directory
  | n + 1, segment :: segments, directory =>
    searchEntries (searchIn n) segment segments directory

/-- No path has more octets, so `**` takes no more directories. -/
def pathLimit : Nat := 4096

def Glob.paths (g : Glob) : FileTask (List Path) := do
  let found ← searchIn (g.segments.length + pathLimit) g.segments g.start
  if g.directoriesOnly then
    let kinds ← FileTask.forEach FileTask.kindOf found
    return (found.zip kinds).filterMap fun (p, kind) =>
      if kind = some .directory then some p else none
  else return found

end GuidelineCompliance.Wildcard
