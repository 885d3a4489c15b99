import GuidelineCompliance.Workspace.Wildcard

/-! The lists that a run reads from a workspace: lines of a list file, and the source files that
the entries of a source list stand for. -/

namespace GuidelineCompliance.Workspace

def listLines (content : Text.Octets) : List String :=
  (Text.lines content.toTextLossy).filter fun line => !Text.isAllBlank line

/-- Read a list file of the workspace. The path that was asked for comes with the answer. -/
def readList (root p : Path) : FileTask (Path × Except FileFault (List String)) := do
  let full := root.join p
  return (full, (← FileTask.readFile full).map listLines)

def hasWildcard (entry : String) : Bool :=
  entry.toList.any fun c => c == '*' || c == '?' || c == '['

/-- The files that an entry of a source list stands for. An entry without wildcards is kept even
if there is no such file, so that its absence is noticed; a wildcard that is not well formed
stands for no file. -/
def entryFiles (root : Path) (entry : String) : FileTask (List Path) := do
  let entry := Text.trim entry
  if !hasWildcard entry then return [root.relativeTo entry]
  match Wildcard.parse? (root.join entry) with
  | none => return []
  | some glob =>
    let paths ← glob.paths
    let kinds ← FileTask.forEach FileTask.kindOf paths
    return (paths.zip kinds).filterMap fun (p, kind) =>
      if kind = some .file then some (root.relativeTo p) else none

/-- The files that a source list stands for, in the order of its entries. -/
def sourceFiles (root : Path) (entries : List String) : FileTask (List Path) := do
  return (← FileTask.forEach (entryFiles root) entries).flatten

def readSource (root file : Path) : FileTask (Except FileFault String) := do
  return (← FileTask.readFile (root.join file)).map Text.Octets.toTextLossy

end GuidelineCompliance.Workspace
