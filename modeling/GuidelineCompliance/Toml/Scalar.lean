import GuidelineCompliance.Text.Digit
import GuidelineCompliance.Pattern.Code

/-! Scalars of a TOML document: texts in their four forms, numbers, dates and times. -/

namespace GuidelineCompliance.Toml

abbrev Reader (α : Type) := List Char → Option (α × List Char)

def isSpace (c : Char) : Bool := c == ' ' || c == '\t'

def skipSpace (cs : List Char) : List Char := cs.dropWhile isSpace

/-- A character that may stand in a text, a comment or a literal; line ends are apart. -/
def isPlain (c : Char) : Bool := c == '\t' || (0x20 ≤ c.val && c.val != 0x7F)

/-- Take one line end, which is a line feed with or without a carriage return. -/
def newline? : List Char → Option (List Char)
  | '\n' :: rest => some rest
  | '\r' :: '\n' :: rest => some rest
  | _ => none

def readCodePoint (digits : Nat) (cs : List Char) : Option (Char × List Char) :=
  if cs.length < digits then none
  else (Pattern.charOfHex? (cs.take digits)).map (·, cs.drop digits)

def readEscape : Reader Char
  | 'b' :: rest => some ('\x08', rest)
  | 't' :: rest => some ('\t', rest)
  | 'n' :: rest => some ('\n', rest)
  | 'f' :: rest => some ('\x0c', rest)
  | 'r' :: rest => some ('\r', rest)
  | '"' :: rest => some ('"', rest)
  | '\\' :: rest => some ('\\', rest)
  | 'u' :: rest => readCodePoint 4 rest
  | 'U' :: rest => readCodePoint 8 rest
  | _ => none

/-- Read a quoted text of one line, from behind its quote. Only a double quote lets escapes be. -/
def readLine (quote : Char) : Nat → Reader (List Char)
  | 0, _ => none
  | _, [] => none
  | n + 1, c :: rest =>
    if c = quote then some ([], rest)
    else if c = '\\' ∧ quote = '"' then do
      let (c, rest) ← readEscape rest
      let (cs, rest) ← readLine quote n rest
      return (c :: cs, rest)
    else if isPlain c then (readLine quote n rest).map fun (cs, rest) => (c :: cs, rest)
    else none

/-- Skip the blanks and line ends behind a backslash at the end of a line. -/
def skipBlankLines : Nat → List Char → List Char
  | 0, cs => cs
  | n + 1, cs =>
    match newline? cs with
    | some rest => skipBlankLines n rest
    | none =>
      match cs with
      | c :: rest => if isSpace c then skipBlankLines n rest else cs
      | [] => []

/-- Read a text of several lines, from behind its quotes. Up to two quotes may stand before the
three that end it, and every line end is read as a line feed. -/
def readLines (quote : Char) : Nat → Reader (List Char)
  | 0, _ => none
  | _, [] => none
  | n + 1, c :: rest =>
    if c = quote then
      let count := ((c :: rest).takeWhile (· == quote)).length
      let quotes := fun k => List.replicate k quote
      if count < 3 then (readLines quote n ((c :: rest).drop count)).map fun (cs, rest) =>
        (quotes count ++ cs, rest)
      else if count ≤ 5 then some (quotes (count - 3), (c :: rest).drop count)
      else none
    else
      match newline? (c :: rest) with
      | some rest => (readLines quote n rest).map fun (cs, rest) => ('\n' :: cs, rest)
      | none =>
        if c = '\\' ∧ quote = '"' then
          match newline? (skipSpace rest) with
          | some after => readLines quote n (skipBlankLines after.length after)
          | none => do
            let (c, rest) ← readEscape rest
            let (cs, rest) ← readLines quote n rest
            return (c :: cs, rest)
        else if isPlain c then (readLines quote n rest).map fun (cs, rest) => (c :: cs, rest)
        else none

def readBlock (quote : Char) (cs : List Char) : Option (List Char × List Char) :=
  readLines quote (cs.length + 1) ((newline? cs).getD cs)

def readQuoted : Reader String
  | '"' :: rest => (readLine '"' (rest.length + 1) rest).map fun (cs, r) => (String.ofList cs, r)
  | '\'' :: rest => (readLine '\'' (rest.length + 1) rest).map fun (cs, r) => (String.ofList cs, r)
  | _ => none

def readText : Reader String
  | '"' :: '"' :: '"' :: rest => (readBlock '"' rest).map fun (cs, r) => (String.ofList cs, r)
  | '\'' :: '\'' :: '\'' :: rest => (readBlock '\'' rest).map fun (cs, r) => (String.ofList cs, r)
  | cs => readQuoted cs

/-- Digits with single underscores between them. -/
def areDigits (isDigit : Char → Bool) (cs : List Char) : Bool :=
  (Text.splitOn '_' cs).all fun piece => !piece.isEmpty && piece.all isDigit

def dropSign : List Char → List Char
  | '+' :: rest => rest
  | '-' :: rest => rest
  | cs => cs

def digitsIn (base : Nat) (cs : List Char) : Nat :=
  cs.foldl (fun n c => match Pattern.hexValue? c with
    | some d => base * n + d
    | none => n) 0

def isDecimal (cs : List Char) : Bool :=
  areDigits Char.isDigit cs && (cs = ['0'] || cs.head? != some '0')

/-- An integer has 64 bits. A base other than ten has a mark in front and no sign. -/
def isInteger (cs : List Char) : Bool :=
  let small := fun n => decide (n < 9223372036854775808)
  match cs with
  | '0' :: 'x' :: ds =>
    areDigits (fun c => (Pattern.hexValue? c).isSome) ds && small (digitsIn 16 ds)
  | '0' :: 'o' :: ds => areDigits (fun c => '0' ≤ c && c ≤ '7') ds && small (digitsIn 8 ds)
  | '0' :: 'b' :: ds => areDigits (fun c => c == '0' || c == '1') ds && small (digitsIn 2 ds)
  | '-' :: ds => isDecimal ds && digitsIn 10 ds ≤ 9223372036854775808
  | _ => isDecimal (dropSign cs) && small (digitsIn 10 (dropSign cs))

/-- Whether `digits · 10 ^ exponent` rounds to a number that a 64-bit float can hold. The bound
lies halfway between the largest float and the next power of two. -/
def isFinite (digits : List Char) (exponent : Int) : Bool :=
  let n := digitsIn 10 digits
  let bound := Nat.pow 2 1024 - Nat.pow 2 970
  let scale := (digits.filter (· != '_')).length
  if n = 0 then true
  else if exponent + scale ≤ 300 then true
  else if 400 < exponent then false
  else if 0 ≤ exponent then n * Nat.pow 10 exponent.toNat < bound
  else n < bound * Nat.pow 10 (-exponent).toNat

/-- A float has a fraction or an exponent. One too large for 64 bits is none, unless it is
negative. -/
def isFloat (cs : List Char) : Bool :=
  let body := dropSign cs
  if body = "inf".toList || body = "nan".toList then true
  else
    let isExponentMark := fun c => c == 'e' || c == 'E'
    let mantissa := body.takeWhile fun c => !isExponentMark c
    let whole := mantissa.takeWhile (· != '.')
    let fraction := mantissa.dropWhile (· != '.')
    let power := (body.dropWhile fun c => !isExponentMark c).drop 1
    let hasPower := body.any isExponentMark
    let exponent : Int :=
      let n : Int := digitsIn 10 power
      if power.head? = some '-' then -n else n
    let shift : Nat := ((fraction.drop 1).filter (· != '_')).length
    (hasPower || !fraction.isEmpty) && isDecimal whole &&
      (fraction.isEmpty || areDigits Char.isDigit (fraction.drop 1)) &&
      (!hasPower || areDigits Char.isDigit (dropSign power)) &&
      (cs.head? = some '-' || isFinite (whole ++ fraction.drop 1) (exponent - shift))

def isNumber (cs : List Char) : Bool := isInteger cs || isFloat cs

def readField (digits low high : Nat) (cs : List Char) : Option (Nat × List Char) :=
  let field := cs.take digits
  if field.length = digits ∧ field.all Char.isDigit then
    let n := Text.digitsValue field
    if low ≤ n ∧ n ≤ high then some (n, cs.drop digits) else none
  else none

def expect (c : Char) : List Char → Option (List Char)
  | x :: rest => if x = c then some rest else none
  | [] => none

def daysIn (year month : Nat) : Nat :=
  if month = 2 then
    if year % 4 = 0 ∧ (year % 100 ≠ 0 ∨ year % 400 = 0) then 29 else 28
  else if month ∈ [4, 6, 9, 11] then 30
  else 31

/-- Take a date, with a day that its month has. -/
def readDate (cs : List Char) : Option (List Char) := do
  let (year, cs) ← readField 4 0 9999 cs
  let (month, cs) ← readField 2 1 12 (← expect '-' cs)
  let (_, cs) ← readField 2 1 (daysIn year month) (← expect '-' cs)
  return cs

/-- Take a time of day. A leap second is one, and the fraction of a second has any length. -/
def readTime (cs : List Char) : Option (List Char) := do
  let (_, cs) ← readField 2 0 23 cs
  let (_, cs) ← readField 2 0 59 (← expect ':' cs)
  let (_, cs) ← readField 2 0 60 (← expect ':' cs)
  match cs with
  | '.' :: rest =>
    let fraction := rest.takeWhile Char.isDigit
    if fraction.isEmpty then none else some (rest.drop fraction.length)
  | _ => some cs

def isOffset : List Char → Bool
  | [] => true
  | ['Z'] => true
  | ['z'] => true
  | sign :: rest =>
    (sign == '+' || sign == '-') &&
      ((do
        let (_, cs) ← readField 2 0 23 rest
        let (_, cs) ← readField 2 0 59 (← expect ':' cs)
        return cs) == some [])

def isMoment (cs : List Char) : Bool :=
  match readDate cs with
  | some [] => true
  | some (c :: rest) =>
    (c == 'T' || c == 't' || c == ' ') && ((readTime rest).map isOffset == some true)
  | none => readTime cs == some []

end GuidelineCompliance.Toml
