import GuidelineCompliance.Text.Utf8
import GuidelineCompliance.Workspace.Path

/-! File trees. A tree is what a machine holds from its root on, seen by a process that works in one
of the directories. A path leads on from the root if it is absolute, and from that directory if it
is not. Every name on the way has to be the name of a directory, also one that a dot or two dots
leave again. The root is its own parent. -/

namespace GuidelineCompliance

inductive FileFault where
  | notFound
  | notADirectory
  | isADirectory
  | invalidText
  | other (reason : String)
  deriving DecidableEq, Repr

def FileFault.message : FileFault → String
  | notFound => "No such file or directory (os error 2)"
  | notADirectory => "Not a directory (os error 20)"
  | isADirectory => "Is a directory (os error 21)"
  | invalidText => "stream did not contain valid UTF-8"
  | other reason => reason

inductive FileKind where
  | file
  | directory
  deriving DecidableEq, Repr

inductive FileEntry where
  | file (content : Text.Octets)
  | directory (entries : List (String × FileEntry))

abbrev FileTree.Place := List String

namespace FileEntry

open FileTree (Place)

def empty : FileEntry := directory []

def kind : FileEntry → FileKind
  | file _ => .file
  | directory _ => .directory

def get? : FileEntry → Place → Option FileEntry
  | e, [] => some e
  | file _, _ :: _ => none
  | directory entries, name :: names => (entries.lookup name).bind (get? · names)

/-- Set the entry of a name, and keep the place of the entry if there is one. -/
def setEntry (name : String) (e : FileEntry) : List (String × FileEntry) → List (String × FileEntry)
  | [] => [(name, e)]
  | (n, old) :: entries =>
    if n = name then (n, e) :: entries else (n, old) :: setEntry name e entries

/-- Put an entry at a place, with the directories on the way there. A file on the way stays. -/
def put (e : FileEntry) : FileEntry → Place → FileEntry
  | _, [] => e
  | file content, _ :: _ => file content
  | directory entries, name :: names =>
    directory (setEntry name (put e ((entries.lookup name).getD empty) names) entries)

def step (root : FileEntry) (place : Place) (segment : String) : Except FileFault Place :=
  match root.get? place with
  | none => .error .notFound
  | some (file _) => .error .notADirectory
  | some (directory entries) =>
    match Path.inner segment with
    | some (.name name) =>
      if (entries.lookup name).isSome then .ok (place ++ [name]) else .error .notFound
    | some .parent => .ok place.dropLast
    | _ => .ok place

def follow (root : FileEntry) (start : Place) (segments : List String) : Except FileFault Place :=
  segments.foldlM root.step start

end FileEntry

structure FileTree where
  root : FileEntry
  working : FileTree.Place

namespace FileTree

def empty : FileTree := ⟨.empty, []⟩

def get? (tree : FileTree) (place : Place) : Option FileEntry := tree.root.get? place

def put (e : FileEntry) (tree : FileTree) (place : Place) : FileTree :=
  { tree with root := .put e tree.root place }

def start (tree : FileTree) (p : Path) : Place := if p.isAbsolute then [] else tree.working

def resolve (tree : FileTree) (p : Path) : Except FileFault Place :=
  if p = "" then .error .notFound else tree.root.follow (tree.start p) (Text.split '/' p)

def kind? (tree : FileTree) (p : Path) : Option FileKind :=
  match tree.resolve p with
  | .ok place => (tree.get? place).map FileEntry.kind
  | .error _ => none

def read (tree : FileTree) (p : Path) : Except FileFault Text.Octets := do
  match tree.get? (← tree.resolve p) with
  | some (.file content) => return content
  | some (.directory _) => throw .isADirectory
  | none => throw .notFound

def entries (tree : FileTree) (p : Path) : List String :=
  match tree.resolve p with
  | .ok place =>
    match tree.get? place with
    | some (.directory entries) => entries.map Prod.fst
    | _ => []
  | .error _ => []

/-- The segments of a path in front of its last one that is not empty, and that one. -/
def splitLast (p : Path) : List String × String :=
  match (Text.split '/' p).reverse.dropWhile (· = "") with
  | [] => ([], "")
  | last :: front => (front.reverse, last)

/-- Write a file anew. Its directory has to be there, nothing but a file may have its name, and no
slash may stand behind it. -/
def write (tree : FileTree) (p : Path) (content : Text.Octets) : Except FileFault FileTree := do
  if p = "" then throw .notFound
  let (front, last) := splitLast p
  let place ← tree.root.follow (tree.start p) front
  match tree.get? place with
  | none => throw .notFound
  | some (.file _) => throw .notADirectory
  | some (.directory entries) =>
    match Path.inner last, entries.lookup last with
    | some (.name _), some (.directory _) => throw .isADirectory
    | some (.name name), _ =>
      if p.toList.getLast? = some '/' then throw .isADirectory
      else return put (.file content) tree (place ++ [name])
    | _, _ => throw .isADirectory

end FileTree

end GuidelineCompliance
