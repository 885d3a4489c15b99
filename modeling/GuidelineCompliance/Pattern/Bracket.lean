import GuidelineCompliance.Pattern.Escape

/-! Sets of characters in square brackets. A bracket holds characters, ranges, escapes, named
classes and further brackets, and may be cut, reduced or compared with what follows one of the
signs `&&`, `--` and `~~`. -/

namespace GuidelineCompliance.Pattern

def asciiClass? (name : List Char) : Option CharSet :=
  match String.ofList name with
  | "alnum" => some (.union .asciiLetter .asciiDigit)
  | "alpha" => some .asciiLetter
  | "ascii" => some .ascii
  | "blank" => some (.ofList ['\t', ' '])
  | "cntrl" => some (.union (.range '\x00' '\x1f') (.char '\x7f'))
  | "digit" => some .asciiDigit
  | "graph" => some (.range '!' '~')
  | "lower" => some (.range 'a' 'z')
  | "print" => some (.range ' ' '~')
  | "punct" =>
    some (.union (.union (.range '!' '/') (.range ':' '@'))
      (.union (.range '[' '\x60') (.range '{' '~')))
  | "space" => some .asciiBlank
  | "upper" => some (.range 'A' 'Z')
  | "word" => some .asciiWord
  | "xdigit" => some (.union .asciiDigit (.union (.range 'a' 'f') (.range 'A' 'F')))
  | _ => none

/-- Read a named class such as `[:alpha:]` or `[:^alpha:]`, from behind its bracket. The class
itself is `none` if it may not be negated. -/
def readAsciiClass (f : Flags) : List Char → Option (Option CharSet × List Char)
  | ':' :: rest =>
    let (negated, rest) := match rest with
      | '^' :: rest => (true, rest)
      | _ => (false, rest)
    match rest.dropWhile (· != ':') with
    | ':' :: ']' :: after => (asciiClass? (rest.takeWhile (· != ':'))).map fun s =>
      (f.sign negated (f.withCase s), after)
    | _ => none
  | _ => none

/-- Read one character or escape in a bracket. An anchor is no member, and neither is a character
beyond ASCII where there is nothing but ASCII. -/
def readMember (f : Flags) (cs : List Char) : Option ((Char ⊕ CharSet) × List Char) := do
  let (member, rest) ← match cs with
    | [] => none
    | '\\' :: rest => readEscape f rest
    | c :: rest => some (.char c, rest)
  match member with
  | .char c => if f.ascii && 0x80 ≤ c.val then none else some (.inl c, rest)
  | .set s => some (.inr s, rest)
  | .anchor _ => none

/-- Read a member or a range. A minus before the end of the bracket, or before a second minus,
makes no range. -/
def readRange (f : Flags) (cs : List Char) : Option (CharSet × List Char) := do
  let (low, rest) ← readMember f cs
  let rest := f.skip rest
  let single : CharSet := match low with
    | .inl c => f.withCase (.char c)
    | .inr s => s
  match rest with
  | '-' :: after =>
    match f.skip after with
    | ']' :: _ => some (single, rest)
    | '-' :: _ => some (single, rest)
    | after =>
      let (high, after) ← readMember f after
      match low, high with
      | .inl a, .inl b => if a ≤ b then some (f.withCase (.range a b), after) else none
      | _, _ => none
  | [] => none
  | _ => some (single, rest)

inductive Combine where
  | inter
  | diff
  | symmDiff

def Combine.apply : Combine → CharSet → CharSet → CharSet
  | inter => .inter
  | diff => .diff
  | symmDiff => .symmDiff

abbrev Left := Option (Combine × CharSet)

def Left.close (left : Left) (part : CharSet) : CharSet :=
  match left with
  | none => part
  | some (sign, s) => sign.apply s part

structure Opened where
  negated : Bool
  left : Left
  part : CharSet

def Opened.add (o : Opened) (s : CharSet) : Opened := { o with part := .union o.part s }

def Opened.combine (o : Opened) (sign : Combine) : Opened :=
  { o with left := some (sign, o.left.close o.part), part := .none }

def Opened.close? (f : Flags) (o : Opened) : Option CharSet :=
  f.sign o.negated (o.left.close o.part)

def readMinuses (f : Flags) : Nat → List Char → Bool × List Char
  | 0, cs => (false, cs)
  | n + 1, cs =>
    match cs with
    | '-' :: rest => (true, (readMinuses f n (f.skip rest)).2)
    | _ => (false, cs)

/-- Open a bracket. Minuses at its start, or else one closing bracket, are members. -/
def openBracket (f : Flags) (cs : List Char) : Opened × List Char :=
  let (negated, cs) := match f.skip cs with
    | '^' :: rest => (true, f.skip rest)
    | cs => (false, cs)
  let opened : Opened := ⟨negated, none, .none⟩
  match readMinuses f cs.length cs with
  | (true, rest) => (opened.add (.char '-'), rest)
  | (false, ']' :: rest) => (opened.add (.char ']'), rest)
  | (false, rest) => (opened, rest)

/-- Read up to the end of the outermost bracket. Every step takes a character, so a text has no
more steps than characters. -/
def readBracketIn (f : Flags) : Nat → Opened → List Opened → Reader CharSet
  | 0, _, _, _ => none
  | n + 1, now, outer, cs =>
    match f.skip cs with
    | [] => none
    | '[' :: rest =>
      match readAsciiClass f rest with
      | some (some s, rest) => readBracketIn f n (now.add s) outer rest
      | some (none, _) => none
      | none =>
        let (inner, rest) := openBracket f rest
        readBracketIn f n inner (now :: outer) rest
    | ']' :: rest =>
      match now.close? f, outer with
      | none, _ => none
      | some s, [] => some (s, rest)
      | some s, before :: outer => readBracketIn f n (before.add s) outer rest
    | '&' :: '&' :: rest => readBracketIn f n (now.combine .inter) outer rest
    | '-' :: '-' :: rest => readBracketIn f n (now.combine .diff) outer rest
    | '~' :: '~' :: rest => readBracketIn f n (now.combine .symmDiff) outer rest
    | cs =>
      match readRange f cs with
      | some (s, rest) => readBracketIn f n (now.add s) outer rest
      | none => none

def readBracket (f : Flags) (cs : List Char) : Option (CharSet × List Char) :=
  let (opened, rest) := openBracket f cs
  readBracketIn f (rest.length + 1) opened [] rest

end GuidelineCompliance.Pattern
