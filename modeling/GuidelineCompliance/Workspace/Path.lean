import GuidelineCompliance.Text.Blank

/-! Paths. A path is a text; its components are what its segments between the slashes mean. Empty
segments and dots mean nothing, except that a slash at the front is the root and a dot at the
front is the current directory. -/

namespace GuidelineCompliance

abbrev Path := String

namespace Path

inductive Component where
  | root
  | current
  | parent
  | name (s : String)
  deriving DecidableEq, Repr

def isAbsolute (p : Path) : Bool := p.toList.head? = some '/'

def inner (segment : String) : Option Component :=
  match segment with
  | "" => none
  | "." => none
  | ".." => some .parent
  | s => some (.name s)

def front (absolute : Bool) (segment : String) : Option Component :=
  if absolute then some .root else if segment = "." then some .current else inner segment

def parts (p : Path) : List (String × Option Component) :=
  match Text.split '/' p with
  | [] => []
  | s :: segments => (s, front p.isAbsolute s) :: segments.map fun s => (s, inner s)

def components (p : Path) : List Component := (parts p).filterMap Prod.snd

/-- The path as it is seen from a directory: an absolute path stands for itself. -/
def join (dir p : Path) : Path :=
  if isAbsolute p then p
  else if dir = "" || dir.toList.getLast? = some '/' then dir ++ p
  else dir ++ "/" ++ p

/-- Drop segments up to and with the `n`-th one that means something. -/
def dropParts : Nat → List (String × Option Component) → List (String × Option Component)
  | 0, ps => ps
  | _, [] => []
  | n + 1, (_, none) :: ps => dropParts (n + 1) ps
  | n + 1, (_, some _) :: ps => dropParts n ps

def isVoid (part : String × Option Component) : Bool := part.2.isNone

/-- The text of segments, without those at the end that mean nothing. -/
def textOf (ps : List (String × Option Component)) : Path :=
  match (ps.reverse.dropWhile isVoid).reverse with
  | [(_, some .root)] => "/"
  | ps => String.intercalate "/" (ps.map Prod.fst)

/-- The path without a directory that it starts with, and the path itself if it does not start
with the directory. -/
def relativeTo (dir p : Path) : Path :=
  let start := components dir
  if start.isEmpty then textOf (parts p)
  else if start.isPrefixOf (components p) then
    textOf ((dropParts start.length (parts p)).dropWhile isVoid)
  else p

end Path

end GuidelineCompliance
