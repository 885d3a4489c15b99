import GuidelineCompliance.Pattern.CharSet

/-! Patterns. A pattern is matched at a place in a text and tries its ways to match in order of
preference: the first branch of an alternative before the second, and one more round of a
greedy repetition before its end. -/

namespace GuidelineCompliance

namespace Pattern

/-- A condition on the characters before and after a place. A line of `lineStart` and `lineEnd`
ends at a line feed; one of `freeLineStart` and `freeLineEnd` ends at a line feed, at a carriage
return, or at the two together. The `ascii` anchors know no words but those of ASCII. -/
inductive Anchor where
  | textStart
  | textEnd
  | lineStart
  | lineEnd
  | freeLineStart
  | freeLineEnd
  | wordEdge
  | noWordEdge
  | wordStart
  | wordEnd
  | wordStartHalf
  | wordEndHalf
  | asciiWordEdge
  | asciiNoWordEdge
  | asciiWordStart
  | asciiWordEnd
  | asciiWordStartHalf
  | asciiWordEndHalf
  deriving DecidableEq, Repr

/-- Whether an anchor holds between two characters, where `none` is an end of the text. -/
def Anchor.holds (a : Anchor) (before after : Option Char) : Bool :=
  let wordBefore := before.any Text.isWord
  let wordAfter := after.any Text.isWord
  let asciiBefore := before.any Text.isAsciiWord
  let asciiAfter := after.any Text.isAsciiWord
  match a with
  | textStart => before.isNone
  | textEnd => after.isNone
  | lineStart => before.isNone || before == some '\n'
  | lineEnd => after.isNone || after == some '\n'
  | freeLineStart =>
    before.isNone || before == some '\n' || (before == some '\r' && after != some '\n')
  | freeLineEnd =>
    after.isNone || after == some '\r' || (after == some '\n' && before != some '\r')
  | wordEdge => wordBefore != wordAfter
  | noWordEdge => wordBefore == wordAfter
  | wordStart => !wordBefore && wordAfter
  | wordEnd => wordBefore && !wordAfter
  | wordStartHalf => !wordBefore
  | wordEndHalf => !wordAfter
  | asciiWordEdge => asciiBefore != asciiAfter
  | asciiNoWordEdge => asciiBefore == asciiAfter
  | asciiWordStart => !asciiBefore && asciiAfter
  | asciiWordEnd => asciiBefore && !asciiAfter
  | asciiWordStartHalf => !asciiBefore
  | asciiWordEndHalf => !asciiAfter

end Pattern

open Pattern in
/-- A pattern. `plus` is one round or more of a pattern, and `capture` keeps what a part of the
pattern took under a number. -/
inductive Pattern where
  | empty
  | set (s : CharSet)
  | anchor (a : Anchor)
  | seq (p q : Pattern)
  | alt (p q : Pattern)
  | plus (greedy : Bool) (p : Pattern)
  | capture (group : Nat) (p : Pattern)
  deriving DecidableEq, Repr

namespace Pattern

def char (c : Char) : Pattern := set (.char c)

def all : List Pattern → Pattern
  | [] => empty
  | [p] => p
  | p :: q :: ps => seq p (all (q :: ps))

def any : List Pattern → Pattern
  | [] => set .none
  | [p] => p
  | p :: q :: ps => alt p (any (q :: ps))

def lit (s : String) : Pattern := all (s.toList.map char)

/-- The pattern or nothing; a lazy option prefers nothing. -/
def opt (greedy : Bool) (p : Pattern) : Pattern := if greedy then alt p empty else alt empty p

def star (greedy : Bool) (p : Pattern) : Pattern := opt greedy (plus greedy p)

def many (s : CharSet) : Pattern := star true (set s)

def many1 (s : CharSet) : Pattern := plus true (set s)

def few (s : CharSet) : Pattern := star false (set s)

def upTo (greedy : Bool) (p : Pattern) : Nat → Pattern
  | 0 => empty
  | 1 => opt greedy p
  | n + 2 => opt greedy (seq p (upTo greedy p (n + 1)))

def times (greedy : Bool) (p : Pattern) (low : Nat) (high : Option Nat) : Pattern :=
  match low, high with
  | 0, none => star greedy p
  | n + 1, none => all (List.replicate n p ++ [plus greedy p])
  | n, some m => all (List.replicate n p ++ (if n < m then [upTo greedy p (m - n)] else []))

end Pattern

end GuidelineCompliance
