import GuidelineCompliance.Pattern.Bracket

/-! The written form of patterns. A text is read from left to right into a stack of open groups;
each step takes at least one character. A text that is no pattern has none, and a class of a
property that has no table is none either. -/

namespace GuidelineCompliance.Pattern

inductive Item where
  | pattern (p : Pattern)
  | flagChange

/-- A group that has been opened: the number that it is captured under, the flags outside it,
and what stands before it. -/
structure Group where
  number : Option Nat
  flags : Flags
  branches : List Pattern
  items : List Item

/-- How far a text has been read: the flags, the number and the names of the groups up to here,
the branches and the items of the innermost open group, last first, and the groups around it. -/
structure Reading where
  flags : Flags
  groups : Nat
  names : List (List Char)
  branches : List Pattern
  items : List Item
  outer : List Group

namespace Reading

def start : Reading := ⟨{}, 0, [], [], [], []⟩

def push (r : Reading) (p : Pattern) : Reading := { r with items := .pattern p :: r.items }

def branch (r : Reading) : Pattern :=
  .all (r.items.reverse.filterMap fun
    | .pattern p => some p
    | .flagChange => none)

def endBranch (r : Reading) : Reading :=
  { r with branches := r.branch :: r.branches, items := [] }

def alternatives (r : Reading) : Pattern := .any (r.branch :: r.branches).reverse

def openGroup (r : Reading) (number : Option Nat) (inner : Flags) : Reading :=
  { r with
    flags := inner
    groups := r.groups + (if number.isSome then 1 else 0)
    branches := []
    items := []
    outer := ⟨number, r.flags, r.branches, r.items⟩ :: r.outer }

def closeGroup (r : Reading) : Option Reading :=
  match r.outer with
  | [] => none
  | g :: outer =>
    let p := match g.number with
      | some n => .capture n r.alternatives
      | none => r.alternatives
    some { r with
      flags := g.flags
      branches := g.branches
      items := .pattern p :: g.items
      outer := outer }

/-- A character. One without variants is left as it is, and so is one beyond ASCII where variants
are those of ASCII. -/
def literal (r : Reading) (c : Char) : Reading :=
  let alone := Text.caseVariants c == [c] || (r.flags.ascii && 0x80 ≤ c.val)
  r.push (.set (if alone then .char c else r.flags.withCase (.char c)))

def repeatLast (r : Reading) (f : Pattern → Pattern) : Option Reading :=
  match r.items with
  | .pattern p :: items => some { r with items := .pattern (f p) :: items }
  | _ => none

end Reading

def size : Pattern → Nat
  | empty => 1
  | set _ => 1
  | anchor _ => 1
  | seq p q => p.size + q.size + 1
  | alt p q => p.size + q.size + 1
  | plus _ p => p.size + 1
  | capture _ p => p.size + 1

/-- The most nodes that counted repetitions may make of a pattern. -/
def sizeLimit : Nat := 100000

/-- Read a repetition count. Blanks around it do not matter, and a count has 32 bits. -/
def readCount (f : Flags) (cs : List Char) : Option (Nat × List Char) :=
  let (digits, rest) := readWhile f.verbose Char.isDigit false (Text.trimLeft cs)
  (Text.readNumber 4294967296 digits).map (·, f.skip (Text.trimLeft rest))

def readCounts (f : Flags) (cs : List Char) : Option ((Nat × Option Nat) × List Char) := do
  let (low, rest) ← readCount f (f.skip cs)
  match rest with
  | '}' :: rest => some ((low, some low), rest)
  | ',' :: rest =>
    match f.skip rest with
    | '}' :: rest => some ((low, none), rest)
    | rest =>
      match ← readCount f rest with
      | (high, '}' :: rest) => if low ≤ high then some ((low, some high), rest) else none
      | _ => none
  | _ => none

/-- Read the flags of a group up to its colon or its end. Each flag is named once, and a minus,
which puts out the flags behind it, stands at most once and never last. -/
def readFlags (flags : Flags) (on afterMinus : Bool) (seen : List Char) :
    List Char → Option (Flags × Char × List Char)
  | [] => none
  | ':' :: rest => if afterMinus then none else some (flags, ':', rest)
  | ')' :: rest => if afterMinus || seen.isEmpty then none else some (flags, ')', rest)
  | '-' :: rest => if on then readFlags flags false true seen rest else none
  | c :: rest =>
    if seen.contains c then none
    else
      match flags.set c on with
      | some flags => readFlags flags on false (c :: seen) rest
      | none => none

/-- A group name is a letter or an underscore and then letters, digits and some signs. -/
def isName : List Char → Bool
  | [] => false
  | c :: cs =>
    (c == '_' || c.isAlpha || (0x80 ≤ c.val && Text.isWord c && !Text.isDigit c)) &&
      cs.all fun c => Text.isWord c || c == '.' || c == '[' || c == ']'

/-- Open a named group from behind the opening bracket of its name. -/
def readNamedGroup (r : Reading) (cs : List Char) : Option (Reading × List Char) :=
  let name := cs.takeWhile (· != '>')
  match cs.dropWhile (· != '>') with
  | _ :: rest =>
    if isName name && !r.names.contains name then
      some ({ r.openGroup (some (r.groups + 1)) r.flags with names := name :: r.names }, rest)
    else none
  | [] => none

/-- Read what follows an opening parenthesis. Conditions on the text around are no patterns. -/
def readGroup (r : Reading) (cs : List Char) : Option (Reading × List Char) :=
  match r.flags.skip cs with
  | '?' :: 'P' :: '<' :: rest => readNamedGroup r rest
  | '?' :: '<' :: '=' :: _ => none
  | '?' :: '<' :: '!' :: _ => none
  | '?' :: '<' :: rest => readNamedGroup r rest
  | '?' :: rest =>
    match readFlags r.flags true false [] rest with
    | some (flags, ':', rest) => some (r.openGroup none flags, rest)
    | some (flags, _, rest) => some ({ r with flags, items := .flagChange :: r.items }, rest)
    | none => none
  | cs => some (r.openGroup (some (r.groups + 1)) r.flags, cs)

def readRepeat (r : Reading) (f : Bool → Pattern → Pattern) (rest : List Char) :
    Option (Reading × List Char) :=
  match rest with
  | '?' :: rest => (r.repeatLast (f r.flags.swapGreed)).map (·, rest)
  | _ => (r.repeatLast (f !r.flags.swapGreed)).map (·, rest)

def readTimes (r : Reading) (cs : List Char) : Option (Reading × List Char) := do
  let ((low, high), rest) ← readCounts r.flags cs
  let fits : Bool := match r.items with
    | .pattern p :: _ => p.size * max low (high.getD 0) ≤ sizeLimit
    | _ => false
  if fits then readRepeat r (fun greedy p => times greedy p low high) (r.flags.skip rest) else none

def readStep (r : Reading) (c : Char) (rest : List Char) : Option (Reading × List Char) :=
  match c with
  | '(' => readGroup r rest
  | ')' => r.closeGroup.map (·, rest)
  | '|' => some (r.endBranch, rest)
  | '[' => (readBracket r.flags rest).map fun s => (r.push (.set s.1), s.2)
  | '?' => readRepeat r opt rest
  | '*' => readRepeat r star rest
  | '+' => readRepeat r plus rest
  | '{' => readTimes r rest
  | '.' => r.flags.dot?.map fun s => (r.push (.set s), rest)
  | '^' => some (r.push (.anchor r.flags.lineStart), rest)
  | '$' => some (r.push (.anchor r.flags.lineEnd), rest)
  | '\\' =>
    match readEscape r.flags rest with
    | some (.char c, rest) => some (r.literal c, rest)
    | some (.set s, rest) => some (r.push (.set s), rest)
    | some (.anchor a, rest) => some (r.push (.anchor a), rest)
    | none => none
  | _ =>
    if r.flags.verbose && Text.isBlank c then some (r, rest)
    else if r.flags.verbose && c == '#' then some (r, rest.dropWhile (· != '\n'))
    else some (r.literal c, rest)

def readAll : Nat → Reading → List Char → Option Pattern
  | _, r, [] => if r.outer.isEmpty then some r.alternatives else none
  | 0, _, _ => none
  | n + 1, r, c :: rest =>
    match readStep r c rest with
    | some (r, rest) => readAll n r rest
    | none => none

def parse? (s : String) : Option Pattern :=
  let cs := s.toList
  readAll cs.length .start cs

end GuidelineCompliance.Pattern
