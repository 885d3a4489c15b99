import GuidelineCompliance.Toml.Scalar
import GuidelineCompliance.Toml.Value

/-! TOML documents: keys, values and headings, read into a table. A text that breaks any rule of
the format is no document. -/

namespace GuidelineCompliance.Toml

def isBareKey (c : Char) : Bool := c.isAlphanum || c == '_' || c == '-'

def readSimpleKey (cs : List Char) : Option (String × List Char) :=
  match cs with
  | '"' :: _ => readQuoted cs
  | '\'' :: _ => readQuoted cs
  | _ =>
    let key := cs.takeWhile isBareKey
    if key.isEmpty then none else some (String.ofList key, cs.drop key.length)

/-- Read a key, which may have segments with dots between them and blanks around those. -/
def readKey : Nat → Reader (List String)
  | 0, _ => none
  | n + 1, cs => do
    let (key, rest) ← readSimpleKey (skipSpace cs)
    match skipSpace rest with
    | '.' :: rest =>
      let (keys, rest) ← readKey n rest
      return (key :: keys, rest)
    | rest => return ([key], rest)

/-- Fewer values than this may stand inside one another, and a key has fewer segments. -/
def nestingLimit : Nat := 80

def readComment : List Char → Option (List Char)
  | '#' :: rest => some (rest.dropWhile isPlain)
  | _ => none

/-- Skip the blanks, comments and line ends between the values of an array. -/
def skipLayout : Nat → List Char → Option (List Char)
  | 0, cs => some cs
  | n + 1, cs =>
    match skipSpace cs with
    | '#' :: rest =>
      match newline? (rest.dropWhile isPlain) with
      | some rest => skipLayout n rest
      | none => none
    | cs =>
      match newline? cs with
      | some rest => skipLayout n rest
      | none => some cs

/-- Read the values of an array from behind its bracket. A comma may stand behind the last. -/
def readElements (value : Reader Value) : Nat → Reader (List Value)
  | 0, _ => none
  | n + 1, cs => do
    match ← skipLayout cs.length cs with
    | ']' :: rest => return ([], rest)
    | cs =>
      let (v, rest) ← value cs
      match ← skipLayout rest.length rest with
      | ']' :: rest => return ([v], rest)
      | ',' :: rest =>
        let (vs, rest) ← readElements value n rest
        return (v :: vs, rest)
      | _ => none

def readPair (value : Reader Value) (cs : List Char) :
    Option ((List String × Value) × List Char) := do
  let (keys, rest) ← readKey (nestingLimit - 1) cs
  let (v, rest) ← value (skipSpace (← expect '=' rest))
  return ((keys, v), rest)

/-- Read the pairs of an inline table from behind its brace. No comma stands behind the last. -/
def readPairs (value : Reader Value) : Nat → Entries → Reader Entries
  | 0, _, _ => none
  | n + 1, entries, cs => do
    let ((keys, v), rest) ← readPair value cs
    let entries ← entries.addDotted keys v
    match skipSpace rest with
    | '\x7d' :: rest => return (entries, rest)
    | ',' :: rest => readPairs value n entries rest
    | _ => none

def readInline (value : Reader Value) (cs : List Char) : Option (Entries × List Char) :=
  match skipSpace cs with
  | '\x7d' :: rest => some ([], rest)
  | cs => readPairs value (cs.length + 1) [] cs

def isTokenChar (c : Char) : Bool :=
  c.isAlphanum || c == '_' || c == '+' || c == '-' || c == '.' || c == ':'

def readToken (cs : List Char) : Option (Value × List Char) :=
  let token := cs.takeWhile isTokenChar
  let rest := cs.drop token.length
  match String.ofList token with
  | "true" => some (.switch true, rest)
  | "false" => some (.switch false, rest)
  | _ =>
    let time := (rest.drop 1).takeWhile isTokenChar
    if rest.head? = some ' ' && (time.head?.map Char.isDigit).getD false && readDate token = some []
    then
      if isMoment (token ++ ' ' :: time) then some (.moment, rest.drop (time.length + 1)) else none
    else if isNumber token then some (.number, rest)
    else if isMoment token then some (.moment, rest)
    else none

/-- Read a value with at most so many values inside one another. -/
def readValue : Nat → Reader Value
  | 0, _ => none
  | n + 1, cs =>
    match cs with
    | '"' :: _ => (readText cs).map fun (s, rest) => (.text s, rest)
    | '\'' :: _ => (readText cs).map fun (s, rest) => (.text s, rest)
    | '[' :: rest =>
      if n = 0 then none
      else (readElements (readValue n) (rest.length + 1) rest).map fun (vs, rest) =>
        (.array vs, rest)
    | '{' :: rest =>
      if n = 0 then none
      else (readInline (readValue n) rest).map fun (entries, rest) =>
        (.table .inline entries, rest)
    | _ => readToken cs

def endLine (cs : List Char) : Option (List Char) :=
  let cs := skipSpace cs
  match (readComment cs).getD cs with
  | [] => some []
  | cs => newline? cs

def readHeading (close : List Char) (cs : List Char) : Option (List String × List Char) := do
  let (keys, rest) ← readKey (nestingLimit - 1) cs
  let rest ← close.foldlM (fun rest c => expect c rest) rest
  return (keys, rest)

/-- Read the lines of a document. `heading` leads to the table that keys are added to. -/
def readDocument : Nat → List String → Entries → List Char → Option Entries
  | 0, _, _, _ => none
  | n + 1, heading, entries, cs => do
    match skipSpace cs with
    | [] => return entries
    | '[' :: '[' :: rest =>
      let (keys, rest) ← readHeading [']', ']'] rest
      readDocument n keys (← entries.openElement keys) (← endLine rest)
    | '[' :: rest =>
      let (keys, rest) ← readHeading [']'] rest
      readDocument n keys (← entries.openTable keys) (← endLine rest)
    | cs =>
      match endLine cs with
      | some rest => readDocument n heading entries rest
      | none =>
        let ((keys, v), rest) ← readPair (readValue nestingLimit) cs
        let entries ← entries.inTable heading (·.addDotted keys v)
        readDocument n heading entries (← endLine rest)

/-- The table that a text writes. A byte order mark at its front is passed over. -/
def parse? (s : String) : Option Entries :=
  let cs := match s.toList with
    | '\uFEFF' :: rest => rest
    | cs => cs
  readDocument (cs.length + 1) [] [] cs

end GuidelineCompliance.Toml
