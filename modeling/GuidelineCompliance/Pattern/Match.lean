import GuidelineCompliance.Pattern.Basic

/-! Matching. A cursor is a place in a text. `run` takes a pattern and what has to follow it, and
answers for the most preferred way in which both succeed. A search starts at each place in turn,
so the leftmost match wins, and of the matches there the most preferred one. -/

namespace GuidelineCompliance

namespace Pattern

/-- A place in a text: the number of UTF-8 octets before it, the character before it, and the
text after it. -/
structure Cursor where
  offset : Nat
  before : Option Char
  rest : List Char
  deriving DecidableEq, Repr

namespace Cursor

def ofText (cs : List Char) : Cursor := ⟨0, none, cs⟩

def next? (c : Cursor) : Option Cursor :=
  match c.rest with
  | [] => none
  | x :: rest => some ⟨c.offset + x.utf8Size, some x, rest⟩

def skipIn (offset : Nat) (before : Option Char) : List Char → Nat → Option Cursor
  | cs, 0 => some ⟨offset, before, cs⟩
  | [], _ + 1 => none
  | x :: cs, n + 1 =>
    if x.utf8Size ≤ n + 1 then skipIn (offset + x.utf8Size) (some x) cs (n + 1 - x.utf8Size)
    else none

/-- The place that lies a number of octets further. There is none inside a character or behind the
end of the text. -/
def skip? (c : Cursor) (octets : Nat) : Option Cursor := skipIn c.offset c.before c.rest octets

/-- The first characters of a text, up to a number of octets. -/
def takeOctets : Nat → List Char → List Char
  | _, [] => []
  | 0, _ => []
  | n + 1, x :: rest => x :: takeOctets (n + 1 - x.utf8Size) rest

end Cursor

structure Span where
  start : Cursor
  stop : Cursor
  deriving DecidableEq, Repr

def Span.chars (s : Span) : List Char :=
  Cursor.takeOctets (s.stop.offset - s.start.offset) s.start.rest

def Span.text (s : Span) : String := String.ofList s.chars

abbrev Captures := List (Nat × Span)

abbrev Follow (α : Type) := Cursor → Captures → Option α

/-- Further rounds of a repetition. A round that takes nothing is no further round. -/
def rounds {α : Type} (round : Follow α → Follow α) (greedy : Bool) (k : Follow α) :
    Nat → Follow α
  | 0, c, caps => k c caps
  | n + 1, c, caps =>
    let again := fun (_ : Unit) => round
      (fun d caps => if d.offset = c.offset then none else rounds round greedy k n d caps) c caps
    if greedy then
      match again () with
      | some r => some r
      | none => k c caps
    else
      match k c caps with
      | some r => some r
      | none => again ()

/-- The most preferred way in which the pattern and then `k` succeed. The first round of a
repetition may take nothing, and then it is the only one. -/
def run {α : Type} : Pattern → Follow α → Follow α
  | empty, k, c, caps => k c caps
  | set s, k, c, caps =>
    match c.rest with
    | [] => none
    | x :: rest =>
      if s.mem x then k ⟨c.offset + x.utf8Size, some x, rest⟩ caps else none
  | anchor a, k, c, caps => if a.holds c.before c.rest.head? then k c caps else none
  | seq p q, k, c, caps => run p (run q k) c caps
  | alt p q, k, c, caps =>
    match run p k c caps with
    | some r => some r
    | none => run q k c caps
  | plus greedy p, k, c, caps =>
    run p (fun d caps =>
      if d.offset = c.offset then k d caps
      else rounds (run p) greedy k d.rest.length d caps) c caps
  | capture group p, k, c, caps =>
    run p (fun d caps => k d ((group, ⟨c, d⟩) :: caps)) c caps

structure Match where
  span : Span
  captures : Captures
  deriving DecidableEq, Repr

namespace Match

def text (m : Match) : String := m.span.text

/-- The stretch that a group took when it last took one. -/
def span? (m : Match) (group : Nat) : Option Span := m.captures.lookup group

def group? (m : Match) (group : Nat) : Option String := (m.span? group).map Span.text

def group (m : Match) (group : Nat) : String := (m.group? group).getD ""

end Match

def matchAt (p : Pattern) (c : Cursor) : Option Match :=
  p.run (fun d caps => some ⟨⟨c, d⟩, caps⟩) c []

def findIn (p : Pattern) (offset : Nat) (before : Option Char) : List Char → Option Match
  | [] => p.matchAt ⟨offset, before, []⟩
  | x :: rest =>
    match p.matchAt ⟨offset, before, x :: rest⟩ with
    | some m => some m
    | none => findIn p (offset + x.utf8Size) (some x) rest

def findFrom (p : Pattern) (c : Cursor) : Option Match := findIn p c.offset c.before c.rest

/-- All matches from a place on, none of which overlaps the one before. Directly after a match,
where `touching` holds, an empty match does not count. Each search takes a character or ends an
empty match, so twice as many searches as characters are enough. -/
def findAllFrom (p : Pattern) : Nat → Bool → Cursor → List Match
  | 0, _, _ => []
  | n + 1, touching, c =>
    match p.findFrom c with
    | none => []
    | some m =>
      if touching && m.span.stop.offset == c.offset then
        match c.next? with
        | none => []
        | some c => findAllFrom p n false c
      else m :: findAllFrom p n true m.span.stop

def findAll (p : Pattern) (s : String) : List Match :=
  let cs := s.toList
  findAllFrom p (2 * cs.length + 2) false (.ofText cs)

def find? (p : Pattern) (s : String) : Option Match := p.findFrom (.ofText s.toList)

def isMatch (p : Pattern) (s : String) : Bool := (p.find? s).isSome

end Pattern

end GuidelineCompliance
