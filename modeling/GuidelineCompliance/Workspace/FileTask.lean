import GuidelineCompliance.Workspace.FileTree

/-! File tasks: programs that read and write files, as values. A task is either done or asks for
one thing and goes on with the answer. It can be run on a file tree, or performed on the files of
a machine; what it does is the same. -/

namespace GuidelineCompliance

inductive FileTask (α : Type) where
  | done (a : α)
  | read (p : Path) (next : Except FileFault Text.Octets → FileTask α)
  | kind (p : Path) (next : Option FileKind → FileTask α)
  | entries (p : Path) (next : List String → FileTask α)
  | write (p : Path) (content : Text.Octets) (next : Except FileFault Unit → FileTask α)

namespace FileTask

def bind {α β : Type} : FileTask α → (α → FileTask β) → FileTask β
  | done a, f => f a
  | read p next, f => .read p fun r => (next r).bind f
  | kind p next, f => .kind p fun r => (next r).bind f
  | entries p next, f => .entries p fun r => (next r).bind f
  | write p content next, f => .write p content fun r => (next r).bind f

instance : Monad FileTask where
  pure := done
  bind := bind

/-- Run a task on a tree. A write that fails leaves the tree as it is. -/
def run {α : Type} : FileTask α → FileTree → α × FileTree
  | done a, tree => (a, tree)
  | read p next, tree => (next (tree.read p)).run tree
  | kind p next, tree => (next (tree.kind? p)).run tree
  | entries p next, tree => (next (tree.entries p)).run tree
  | write p content next, tree =>
    match tree.write p content with
    | .ok tree => (next (.ok ())).run tree
    | .error e => (next (.error e)).run tree

def readFile (p : Path) : FileTask (Except FileFault Text.Octets) := .read p done

def kindOf (p : Path) : FileTask (Option FileKind) := .kind p done

def entriesOf (p : Path) : FileTask (List String) := .entries p done

def writeFile (p : Path) (content : Text.Octets) : FileTask (Except FileFault Unit) :=
  .write p content done

def forEach {α β : Type} (f : α → FileTask β) : List α → FileTask (List β)
  | [] => done []
  | a :: as => (f a).bind fun b => (forEach f as).bind fun bs => done (b :: bs)

@[simp] theorem run_bind {α β : Type} (t : FileTask α) (f : α → FileTask β) (tree : FileTree) :
    (t.bind f).run tree = (f (t.run tree).1).run (t.run tree).2 := by
  induction t generalizing tree with
  | done a => rfl
  | read p next ih => exact ih _ tree
  | kind p next ih => exact ih _ tree
  | entries p next ih => exact ih _ tree
  | write p content next ih =>
    simp only [bind, run]
    cases tree.write p content with
    | ok t => exact ih _ t
    | error e => exact ih _ tree

end FileTask

end GuidelineCompliance
