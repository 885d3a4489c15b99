import GuidelineCompliance.Pattern.Flags
import GuidelineCompliance.Pattern.Category
import GuidelineCompliance.Pattern.Script

/-! Classes of characters that have a named property: a general category, a script, or one of the
properties that come with the categories. Letter case, blanks, minuses, underscores and a leading
`is` do not count in a name. -/

namespace GuidelineCompliance.Pattern

/-- Whether a name begins with `is`, which says nothing. -/
def beginsWithIs : List Char → Bool
  | c :: d :: _ => c.toLower == 'i' && d.toLower == 's'
  | _ => false

/-- A name without what does not count in it. The one name that is shorter than its `is` is the
abbreviation of a property that no class is made of. -/
def normalName (name : List Char) : String :=
  let kept := (if beginsWithIs name then name.drop 2 else name).filter fun c =>
    c.val < 0x80 && c != ' ' && c != '_' && c != '-'
  let lower := String.ofList (kept.map Char.toLower)
  if beginsWithIs name && lower == "c" then "isc" else lower

def categoryClass (name : String) : CharSet := .codes ((categoryCodes? name).getD [])

def assigned : CharSet := .codes (categoryRows.flatMap fun row => readTable row.2)

def category? (name : String) : Option CharSet :=
  match name with
  | "any" => some .all
  | "ascii" => some .ascii
  | "assigned" => some assigned
  | "cn" | "unassigned" => some (.compl assigned)
  | "c" | "other" =>
    let others : CharSet := .union (categoryClass "cc") (categoryClass "cf")
    some (.union (.compl assigned) (.union others (categoryClass "co")))
  | "cs" | "surrogate" => some .none
  | _ => (categoryCodes? name).map .codes

def script? (name : String) : Option CharSet := (scriptCodes? name).map .codes

/-- The properties that are neither categories nor scripts. -/
def binary? (name : String) : Option CharSet :=
  match name with
  | "alpha" | "alphabetic" =>
    some (.union (.union (categoryClass "l") (categoryClass "nl")) (.codes furtherAlphabetic))
  | "lower" | "lowercase" => some (.union (categoryClass "ll") (.codes furtherLower))
  | "upper" | "uppercase" => some (.union (categoryClass "lu") (.codes furtherUpper))
  | "space" | "wspace" | "whitespace" => some .blank
  | _ => none

def class? (name : List Char) : Option CharSet :=
  let name := normalName name
  (binary? name).or ((category? name).or (script? name))

def classOf? (property value : List Char) : Option CharSet :=
  match normalName property with
  | "gc" | "generalcategory" => category? (normalName value)
  | "sc" | "script" => script? (normalName value)
  | _ => none

def splitAt? (sign : List Char) : List Char → Option (List Char × List Char)
  | [] => none
  | c :: cs =>
    if sign.isPrefixOf (c :: cs) then some ([], (c :: cs).drop sign.length)
    else (splitAt? sign cs).map fun r => (c :: r.1, r.2)

/-- A name in braces: of a class, or of a property and a value with a sign between them. Of the
signs, `!=` goes before the others, and then a colon before an equals sign. -/
def namedClass (name : List Char) : Option (Bool × CharSet) :=
  match splitAt? ['!', '='] name, splitAt? [':'] name, splitAt? ['='] name with
  | some (p, v), _, _ => (classOf? p v).map (true, ·)
  | _, some (p, v), _ => (classOf? p v).map (false, ·)
  | _, _, some (p, v) => (classOf? p v).map (false, ·)
  | _, _, _ => (class? name).map (false, ·)

/-- Read a class from behind its `\p`. Without braces its name is one letter. -/
def readProperty (f : Flags) (negated : Bool) (cs : List Char) : Option (CharSet × List Char) :=
  if f.ascii then none
  else
    match f.skip cs with
    | '{' :: rest => do
      let (name, rest) ← readBraced f.verbose false rest
      let (other, s) ← namedClass name
      return (← f.sign (negated != other) (f.withCase s), rest)
    | '\\' :: _ => none
    | c :: rest => do return (← f.sign negated (f.withCase (← class? [c])), rest)
    | [] => none

end GuidelineCompliance.Pattern
