/-! Options of a command line. A level of a command line has options, which are known by a long
name and perhaps a letter, and other arguments. What comes after two hyphens is no option. -/

namespace GuidelineCompliance.CommandLine

/-- What an option takes. The value of an option may be in its argument, behind an equals sign or
directly behind its letter, or be the next argument. -/
inductive Arity where
  /-- No value. -/
  | flag
  /-- No value; the arguments behind the option do not matter. -/
  | stop
  /-- One value. -/
  | value
  /-- One value, which may be left out. -/
  | optionalValue
  deriving DecidableEq, Repr

structure OptionSpec where
  long : String
  short : Option Char := none
  arity : Arity
  deriving DecidableEq, Repr

structure Given where
  spec : OptionSpec
  value : Option String

def present : String := "true"

structure Arguments where
  options : List (String × String) := []
  others : List String := []

inductive Parsed where
  | arguments (a : Arguments) (rest : List String)
  | stopped (option : String)
  | misused

namespace Arguments

def value? (a : Arguments) (long : String) : Option String := a.options.lookup long

/-- An option may be given once. -/
def add (a : Arguments) (long value : String) : Option Arguments :=
  if (a.value? long).isSome then none else some { a with options := (long, value) :: a.options }

end Arguments

def isOption (arg : String) : Bool := arg.toList.head? = some '-' && arg != "-"

/-- Read the letters of an argument. A letter that takes a value takes all that follows it. -/
def readLetters (specs : List OptionSpec) : List Char → Option (List Given)
  | [] => some []
  | c :: rest =>
    match specs.find? (·.short = some c) with
    | none => none
    | some spec =>
      match spec.arity with
      | .stop => some [⟨spec, none⟩]
      | .flag => (readLetters specs rest).map (⟨spec, none⟩ :: ·)
      | _ =>
        match rest with
        | [] => some [⟨spec, none⟩]
        | '=' :: value => some [⟨spec, some (String.ofList value)⟩]
        | value => some [⟨spec, some (String.ofList value)⟩]

def readOptions (specs : List OptionSpec) (arg : String) : Option (List Given) :=
  match arg.toList with
  | '-' :: '-' :: cs =>
    let name := String.ofList (cs.takeWhile (· != '='))
    match specs.find? (·.long = name), cs.dropWhile (· != '=') with
    | none, _ => none
    | some spec, [] => some [⟨spec, none⟩]
    | some spec, _ :: value =>
      if spec.arity = .flag || spec.arity = .stop then none
      else some [⟨spec, some (String.ofList value)⟩]
  | _ :: cs => readLetters specs cs
  | [] => none

/-- Add options, and take the value of the last from the next argument where it has to be there. -/
def addGiven (a : Arguments) : List Given → List String → Option (Arguments × List String)
  | [], args => some (a, args)
  | g :: gs, args =>
    match g.value, g.spec.arity, args with
    | some value, _, _ => (a.add g.spec.long value).bind fun a => addGiven a gs args
    | none, .value, next :: args =>
      if isOption next then none
      else (a.add g.spec.long next).bind fun a => addGiven a gs args
    | none, .value, [] => none
    | none, .optionalValue, next :: args =>
      if isOption next then (a.add g.spec.long present).bind fun a => addGiven a gs (next :: args)
      else (a.add g.spec.long next).bind fun a => addGiven a gs args
    | none, _, _ => (a.add g.spec.long present).bind fun a => addGiven a gs args

/-- Read the arguments of a level. A level with further levels ends at its first other argument,
which tells what the rest is. Every round takes an argument. -/
def readArguments (specs : List OptionSpec) (hasLevels : Bool) :
    Nat → Arguments → List String → Parsed
  | _, a, [] => .arguments a []
  | 0, _, _ => .misused
  | n + 1, a, arg :: args =>
    if arg = "--" then
      if hasLevels && !args.isEmpty then .misused
      else .arguments { a with others := a.others ++ args } []
    else if isOption arg then
      match readOptions specs arg with
      | none => .misused
      | some given =>
        match given.find? (·.spec.arity = .stop) with
        | some g => .stopped g.spec.long
        | none =>
          match addGiven a given args with
          | none => .misused
          | some (a, args) => readArguments specs hasLevels n a args
    else if hasLevels then .arguments { a with others := [arg] } args
    else readArguments specs hasLevels n { a with others := a.others ++ [arg] } args

end GuidelineCompliance.CommandLine
