import GuidelineCompliance.Pattern.Property

/-! Escapes of the written form of patterns: what may follow a backslash. -/

namespace GuidelineCompliance.Pattern

inductive Escape where
  | char (c : Char)
  | set (s : CharSet)
  | anchor (a : Anchor)

/-- The characters that mean something in a pattern, and may be escaped to mean themselves. -/
def isMeta (c : Char) : Bool := "\\.+*?()|[]\x7b\x7d^$#&-~".toList.contains c

/-- An escape of any other ASCII character that is no letter, digit or angle bracket also means
the character itself. -/
def isEscapable (c : Char) : Bool :=
  isMeta c || (c.val < 0x80 && !c.isAlphanum && c != '<' && c != '>')

/-- Read so many characters, and leave out blanks and comments in front of them. -/
def readExactly (f : Flags) : Nat → Reader (List Char)
  | 0, cs => some ([], cs)
  | n + 1, cs =>
    match f.skip cs with
    | c :: cs => (readExactly f n cs).map fun r => (c :: r.1, r.2)
    | [] => none

/-- Read a code point: a fixed number of digits, or any number of them in braces. Two digits are
an octet, which is no character of its own behind those of ASCII if there is nothing but ASCII. -/
def readCode (f : Flags) (digits : Nat) (cs : List Char) : Option (Char × List Char) :=
  match f.skip cs with
  | '{' :: rest => do
    let (hex, rest) ← readBraced f.verbose false rest
    return (← charOfHex? hex, rest)
  | cs => do
    let (hex, rest) ← readExactly f digits cs
    let c ← charOfHex? hex
    if f.ascii && digits == 2 && 0x80 ≤ c.val then none else some (c, rest)

def namedEdge? (name : List Char) : Option Anchor :=
  match String.ofList name with
  | "start" => some .wordStart
  | "end" => some .wordEnd
  | "start-half" => some .wordStartHalf
  | "end-half" => some .wordEndHalf
  | _ => none

def isEdgeLetter (c : Char) : Bool := c.isAlpha || c == '-'

/-- Read what follows `\b`. A brace with a name in it tells which edge is meant; any other brace
is left alone, for it may count repetitions. -/
def readEdge (f : Flags) (cs : List Char) : Option (Anchor × List Char) :=
  match cs with
  | '{' :: rest =>
    match readWhile f.verbose isEdgeLetter false rest with
    | ([], []) => none
    | ([], _) => some (.wordEdge, cs)
    | (name, '}' :: after) => (namedEdge? name).map (·, after)
    | _ => none
  | _ => some (.wordEdge, cs)

def Flags.class (f : Flags) (kind : Char) : CharSet :=
  match kind with
  | 'd' => if f.ascii then .asciiDigit else .digit
  | 's' => if f.ascii then .asciiBlank else .blank
  | _ => if f.ascii then .asciiWord else .word

def readEscape (f : Flags) : Reader Escape
  | [] => none
  | c :: rest =>
    let code (digits : Nat) := (readCode f digits rest).map fun r => (Escape.char r.1, r.2)
    let edge (a : Anchor) := Escape.anchor (f.wordAnchor a)
    match c with
    | 'd' | 's' | 'w' => some (.set (f.class c), rest)
    | 'D' | 'S' | 'W' => (f.sign true (f.class c.toLower)).map fun s => (.set s, rest)
    | 'p' | 'P' => (readProperty f (c == 'P') rest).map fun r => (.set r.1, r.2)
    | 'x' => code 2
    | 'u' => code 4
    | 'U' => code 8
    | 'a' => some (.char '\x07', rest)
    | 'f' => some (.char '\x0c', rest)
    | 't' => some (.char '\t', rest)
    | 'n' => some (.char '\n', rest)
    | 'r' => some (.char '\r', rest)
    | 'v' => some (.char '\x0b', rest)
    | 'A' => some (.anchor .textStart, rest)
    | 'z' => some (.anchor .textEnd, rest)
    | 'b' => (readEdge f rest).map fun r => (edge r.1, r.2)
    | 'B' => some (edge .noWordEdge, rest)
    | '<' => some (edge .wordStart, rest)
    | '>' => some (edge .wordEnd, rest)
    | _ => if isEscapable c then some (.char c, rest) else none

end GuidelineCompliance.Pattern
