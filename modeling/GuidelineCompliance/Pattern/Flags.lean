import GuidelineCompliance.Pattern.Basic

/-! The flags of the written form of patterns. Some of them change how the rest of a text is read:
letter case may not count, blanks and comments may mean nothing, and characters may be no more than
those of ASCII. -/

namespace GuidelineCompliance.Pattern

/-- A reader takes a part off the front of a text, and fails where there is no such part. -/
abbrev Reader (α : Type) := List Char → Option (α × List Char)

structure Flags where
  ignoreCase : Bool := false
  multiLine : Bool := false
  dotAll : Bool := false
  freeLines : Bool := false
  swapGreed : Bool := false
  verbose : Bool := false
  ascii : Bool := false

/-- Skip blanks and comments, which go from a number sign to the end of the line. The first
argument tells whether the text begins inside of a comment. -/
def skipBlanks : Bool → List Char → List Char
  | _, [] => []
  | true, c :: cs => skipBlanks (c != '\n') cs
  | false, c :: cs =>
    if Text.isBlank c then skipBlanks false cs
    else if c == '#' then skipBlanks true cs
    else c :: cs

/-- Read up to a closing brace, and leave out blanks and comments where they mean nothing. -/
def readBraced (verbose : Bool) : Bool → Reader (List Char)
  | _, [] => none
  | true, c :: cs => readBraced verbose (c != '\n') cs
  | false, c :: cs =>
    if c == '}' then some ([], cs)
    else if verbose && Text.isBlank c then readBraced verbose false cs
    else if verbose && c == '#' then readBraced verbose true cs
    else (readBraced verbose false cs).map fun r => (c :: r.1, r.2)

/-- Read characters of some kind, and leave out blanks and comments behind each of them. -/
def readWhile (verbose : Bool) (kind : Char → Bool) : Bool → List Char → List Char × List Char
  | _, [] => ([], [])
  | true, c :: cs => readWhile verbose kind (c != '\n') cs
  | false, c :: cs =>
    if kind c then
      let r := readWhile verbose kind false cs
      (c :: r.1, r.2)
    else if verbose && Text.isBlank c then readWhile verbose kind false cs
    else if verbose && c == '#' then readWhile verbose kind true cs
    else ([], c :: cs)

namespace Flags

def set (f : Flags) (flag : Char) (on : Bool) : Option Flags :=
  match flag with
  | 'i' => some { f with ignoreCase := on }
  | 'm' => some { f with multiLine := on }
  | 's' => some { f with dotAll := on }
  | 'R' => some { f with freeLines := on }
  | 'U' => some { f with swapGreed := on }
  | 'x' => some { f with verbose := on }
  | 'u' => some { f with ascii := !on }
  | _ => none

def skip (f : Flags) (cs : List Char) : List Char := if f.verbose then skipBlanks false cs else cs

/-- The set of a set's members and, where letter case is ignored, of their variants. -/
def withCase (f : Flags) (s : CharSet) : CharSet :=
  if f.ignoreCase then (if f.ascii then .inter .ascii (.anyCase s) else .anyCase s) else s

/-- A set or what is not in it. No set of ASCII characters is what is not in another. -/
def sign (f : Flags) (negated : Bool) (s : CharSet) : Option CharSet :=
  if negated then (if f.ascii then none else some (.compl s)) else some s

def lineStart (f : Flags) : Anchor :=
  if f.multiLine then (if f.freeLines then .freeLineStart else .lineStart) else .textStart

def lineEnd (f : Flags) : Anchor :=
  if f.multiLine then (if f.freeLines then .freeLineEnd else .lineEnd) else .textEnd

def wordAnchor (f : Flags) (a : Anchor) : Anchor :=
  if f.ascii then
    match a with
    | .wordEdge => .asciiWordEdge
    | .noWordEdge => .asciiNoWordEdge
    | .wordStart => .asciiWordStart
    | .wordEnd => .asciiWordEnd
    | .wordStartHalf => .asciiWordStartHalf
    | .wordEndHalf => .asciiWordEndHalf
    | a => a
  else a

/-- What a dot stands for. It would take octets that make no character if there were nothing but
ASCII. -/
def dot? (f : Flags) : Option CharSet :=
  if f.ascii then none
  else if f.dotAll then some .all
  else if f.freeLines then some (.noneOf ['\r', '\n'])
  else some (.noneOf ['\n'])

end Flags

end GuidelineCompliance.Pattern
