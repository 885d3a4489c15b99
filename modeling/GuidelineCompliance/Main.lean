import GuidelineCompliance.CommandLine.Run

/-! The program. Its work is a file task, which is performed here on the files of the machine; what
it prints and how it ends are the task's result. -/

namespace GuidelineCompliance.Program

/-- The system's number for an attempt to use a directory as a file. -/
def directoryCode : UInt32 := 21

def faultOf : IO.Error → FileFault
  | .noFileOrDirectory .. => .notFound
  | .inappropriateType _ code _ =>
    if code = directoryCode || code = 0 - directoryCode then .isADirectory else .notADirectory
  | e => .other (toString e)

def attempt {α : Type} (action : IO α) : IO (Except FileFault α) := do
  try return .ok (← action)
  catch e => return .error (faultOf e)

def kindOf (p : Path) : IO (Option FileKind) := do
  try
    match (← (← IO.FS.realPath p).metadata).type with
    | .dir => return some .directory
    | _ => return some .file
  catch _ => return none

def entriesOf (p : Path) : IO (List String) := do
  try return (← (← IO.FS.realPath p).readDir).toList.map (·.fileName)
  catch _ => return []

def perform {α : Type} : FileTask α → IO α
  | .done a => return a
  | .read p next => do
    perform (next (← attempt do return (← IO.FS.readBinFile p).toList))
  | .kind p next => do perform (next (← kindOf p))
  | .entries p next => do perform (next (← entriesOf p))
  | .write p content next => do
    perform (next (← attempt (IO.FS.writeBinFile p ⟨content.toArray⟩)))

end GuidelineCompliance.Program

open GuidelineCompliance in
def main (args : List String) : IO UInt32 := do
  let configured ← IO.getEnv "MISRA_GCS_CONFIG_DIR"
  let home ← IO.getEnv "HOME"
  match ← Program.perform (CommandLine.run configured home args) with
  | .misused =>
    IO.eprint (Terminal.unlines CommandLine.usageLines)
    return 2
  | .finished exit output =>
    IO.print output
    return exit.toUInt32
  | .failed f =>
    IO.eprint (Terminal.unlines (Terminal.failureLines f.message f.causes))
    return 1
