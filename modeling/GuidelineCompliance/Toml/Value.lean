/-! Values of a TOML document. Settings are texts and switches, so the other scalars are kept by
their kind only. -/

namespace GuidelineCompliance.Toml

/-- How a table came about, which decides what may still be added to it. A table is `written` when
a heading names it, `implied` when a heading names a table inside it, `dotted` when a dotted key
leads through it, and `inline` when it is written as a value. -/
inductive Origin where
  | written
  | implied
  | dotted
  | inline
  deriving DecidableEq, Repr

inductive Value where
  | text (s : String)
  | switch (b : Bool)
  | number
  | moment
  | array (values : List Value)
  | table (origin : Origin) (entries : List (String × Value))
  | tables (ts : List (List (String × Value)))

abbrev Entries := List (String × Value)

namespace Value

def text? : Value → Option String
  | text s => some s
  | _ => none

def switch? : Value → Option Bool
  | switch b => some b
  | _ => none

/-- The fields of a value that is read as a record. An array gives its fields in order, a table by
name, and a date has none. -/
def fields? : Value → Option (Nat → String → Option Value)
  | array values => some fun i _ => values[i]?
  | table _ entries => some fun _ name => entries.lookup name
  | tables ts => some fun i _ => ts[i]?.map (table .written)
  | moment => some fun _ _ => none
  | _ => none

end Value

namespace Entries

def set (key : String) (v : Value) : Entries → Entries
  | [] => [(key, v)]
  | (k, old) :: entries => if k = key then (k, v) :: entries else (k, old) :: set key v entries

/-- Change the entries of the table that keys lead to. Tables that are not there yet come about
with the origin that the way has; a dotted way goes through no table that was written. An array of
tables stands for its last table. -/
def changeAt (way : Origin) (f : Entries → Option Entries) : List String → Entries → Option Entries
  | [], entries => f entries
  | key :: keys, entries =>
    match entries.lookup key with
    | none => do
      let inner ← changeAt way f keys []
      return entries.set key (.table way inner)
    | some (.table origin inner) =>
      if origin = .inline || (way = .dotted && origin = .written) then none
      else do
        let inner ← changeAt way f keys inner
        return entries.set key (.table origin inner)
    | some (.tables ts) =>
      match ts.reverse with
      | [] => none
      | last :: before => do
        let inner ← changeAt way f keys last
        return entries.set key (.tables (inner :: before).reverse)
    | some _ => none

def add (key : String) (v : Value) (entries : Entries) : Option Entries :=
  if (entries.lookup key).isSome then none else some (entries.set key v)

/-- The origin of the table that keys lead to, if it is there. -/
def originAt : List String → Origin → Entries → Option Origin
  | [], origin, _ => some origin
  | key :: keys, _, entries =>
    match entries.lookup key with
    | some (.table origin inner) => originAt keys origin inner
    | some (.tables ts) => originAt keys .written (ts.getLastD [])
    | _ => none

/-- Add the value of a dotted key. A dotted key may only add to a table that dotted keys made, and
a plain key to any other. -/
def addDotted (keys : List String) (v : Value) (entries : Entries) : Option Entries :=
  match keys.reverse with
  | [] => none
  | [key] => entries.add key v
  | key :: front =>
    let way := front.reverse
    match originAt way .dotted entries with
    | some .dotted => changeAt .dotted (add key v) way entries
    | none => changeAt .dotted (add key v) way entries
    | some _ => none

/-- Open a table by its heading. A table that was only implied becomes a written one; any other
value of the name is a duplicate. -/
def openTable (keys : List String) (entries : Entries) : Option Entries :=
  match keys.reverse with
  | [] => none
  | key :: front =>
    changeAt .implied
      (fun inner =>
        match inner.lookup key with
        | none => some (inner.set key (.table .written []))
        | some (.table .implied entries) => some (inner.set key (.table .written entries))
        | some _ => none)
      front.reverse entries

def openElement (keys : List String) (entries : Entries) : Option Entries :=
  match keys.reverse with
  | [] => none
  | key :: front =>
    changeAt .implied
      (fun inner =>
        match inner.lookup key with
        | none => some (inner.set key (.tables [[]]))
        | some (.tables ts) => some (inner.set key (.tables (ts ++ [[]])))
        | some _ => none)
      front.reverse entries

def inTable (heading : List String) (f : Entries → Option Entries) (entries : Entries) :
    Option Entries :=
  changeAt .implied f heading entries

end Entries

end GuidelineCompliance.Toml
