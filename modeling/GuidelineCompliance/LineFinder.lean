import GuidelineCompliance.Pattern.Match

/-! The lines on which texts stand. A finder goes through a text from front to back, answers each
query with the line on which the next occurrence starts, and goes on behind that occurrence. Places
in the text are numbers of octets, and a line is found by halving the list of the line ends. -/

namespace GuidelineCompliance

/-- A slice of a text that would start inside a character or behind the end of the text. -/
structure OutOfRange where
  offset : Nat
  deriving DecidableEq, Repr

structure LineFinder where
  text : String
  lineEnds : Array Nat
  position : Nat
  deriving DecidableEq, Repr

namespace LineFinder

open Pattern (Cursor)

/-- The offsets of the line feeds in a text that stands behind `offset` octets. -/
def lineFeeds (offset : Nat) : List Char → List Nat
  | [] => []
  | c :: cs =>
    let later := lineFeeds (offset + c.utf8Size) cs
    if c = '\n' then offset :: later else later

/-- The end of the text ends its last line. -/
def ofText (text : String) : LineFinder :=
  ⟨text, (lineFeeds 0 text.toList ++ [text.utf8ByteSize]).toArray, 0⟩

/-- Halve the stretch between two indices until it is empty, towards the first element that fails
the test. -/
def bisect {α : Type} (p : α → Bool) (xs : Array α) : Nat → Nat → Nat → Nat
  | 0, low, _ => low
  | n + 1, low, high =>
    if low < high then
      let middle := low + (high - low) / 2
      if xs[middle]?.any p then bisect p xs n (middle + 1) high else bisect p xs n low middle
    else low

/-- The index of the first element that fails the test, where all that pass it stand in front. -/
def partitionPoint {α : Type} (p : α → Bool) (xs : Array α) : Nat := bisect p xs xs.size 0 xs.size

variable (f : LineFinder)

/-- A line feed belongs to the line that it ends. -/
def line (offset : Nat) : Nat := partitionPoint (fun lineEnd => lineEnd < offset) f.lineEnds + 1

/-- The text from an offset on, as a place in the whole text. -/
def slice (offset : Nat) : Except OutOfRange Cursor :=
  match (Cursor.ofText f.text.toList).skip? offset with
  | some c => .ok c
  | none => .error ⟨offset⟩

/-- Answer with the line of a match, and go on behind it, or one character further if it is
empty. -/
def advance (start stop : Nat) : Except OutOfRange (Nat × LineFinder) := do
  let position ←
    if start < stop then pure stop
    else
      match (← f.slice stop).rest with
      | [] => pure f.text.utf8ByteSize
      | c :: _ => pure (stop + c.utf8Size)
  return (f.line start, { f with position })

/-- A query without a match leaves the finder where it is. -/
def nextMatch (p : Pattern) : Except OutOfRange (Option (Nat × LineFinder)) := do
  match p.findFrom (← f.slice f.position) with
  | none => return none
  | some m => return some (← f.advance m.span.start.offset m.span.stop.offset)

def firstOffset? (text : List Char) : List Char → Option Nat
  | [] => if text.isEmpty then some 0 else none
  | c :: cs =>
    if text.isPrefixOf (c :: cs) then some 0 else (firstOffset? text cs).map (c.utf8Size + ·)

def nextText (text : String) : Except OutOfRange (Option (Nat × LineFinder)) := do
  match firstOffset? text.toList (← f.slice f.position).rest with
  | none => return none
  | some n => return some (← f.advance (f.position + n) (f.position + n + text.utf8ByteSize))

def findMatch? (p : Pattern) : Option (Nat × LineFinder) := (f.nextMatch p).toOption.join

def find? (text : String) : Option (Nat × LineFinder) := (f.nextText text).toOption.join

end LineFinder

end GuidelineCompliance
