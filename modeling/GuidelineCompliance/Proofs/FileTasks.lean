import GuidelineCompliance.Check

/-! How file tasks end on a machine. A machine may refuse more than a tree does: a file that is
there may be unreadable, and writing one may fail halfway. A task that reads first leaves all files
alone up to what it does then, whatever it is told. -/

namespace GuidelineCompliance

open Text (Octets)

/-- What an attempt to write a file anew can come to. A failed one leaves the file as it was, or
with anything in it. -/
inductive WriteEnds (tree : FileTree) (p : Path) (content : Octets) :
    Except FileFault Unit → FileTree → Prop where
  | written {tree'} (h : tree.write p content = .ok tree') : WriteEnds tree p content (.ok ()) tree'
  | refused (e : FileFault) : WriteEnds tree p content (.error e) tree
  | broken {tree'} (e : FileFault) (part : Octets) (h : tree.write p part = .ok tree') :
    WriteEnds tree p content (.error e) tree'

namespace FileTask

variable {α β : Type}

/-- How a task that begins on a tree can end: with which result, and with which tree. What it is
told about files is what the tree holds, as far as the machine lets it see that. -/
inductive Ends : FileTask α → FileTree → α → FileTree → Prop where
  | done {a tree} : Ends (done a) tree a tree
  | read {p next tree a tree'} (answer : Except FileFault Octets)
    (told : answer = tree.read p ∨ ∃ e, answer = .error e)
    (rest : Ends (next answer) tree a tree') : Ends (.read p next) tree a tree'
  | kind {p next tree a tree'} (answer : Option FileKind)
    (told : answer = tree.kind? p ∨ answer = none) (rest : Ends (next answer) tree a tree') :
    Ends (.kind p next) tree a tree'
  | entries {p next tree a tree'} (answer : List String) (told : answer ⊆ tree.entries p)
    (rest : Ends (next answer) tree a tree') : Ends (.entries p next) tree a tree'
  | write {p content next tree a between tree'} (answer : Except FileFault Unit)
    (attempt : WriteEnds tree p content answer between)
    (rest : Ends (next answer) between a tree') : Ends (.write p content next) tree a tree'

theorem ends_run (t : FileTask α) (tree : FileTree) :
    t.Ends tree (t.run tree).1 (t.run tree).2 := by
  induction t generalizing tree with
  | done a => exact .done
  | read p next ih => exact .read _ (Or.inl rfl) (ih _ tree)
  | kind p next ih => exact .kind _ (Or.inl rfl) (ih _ tree)
  | entries p next ih => exact .entries _ (List.Subset.refl _) (ih _ tree)
  | write p content next ih =>
    rw [run]
    cases h : tree.write p content with
    | ok tree' => exact .write _ (.written h) (ih _ tree')
    | error e => exact .write _ (.refused e) (ih _ tree)

/-- A task that only reads and looks until it comes to a task of some kind. -/
inductive ReadsUntil (P : FileTask α → Prop) : FileTask α → Prop where
  | here {t} (h : P t) : ReadsUntil P t
  | read {p next} (later : ∀ answer, ReadsUntil P (next answer)) : ReadsUntil P (.read p next)
  | kind {p next} (later : ∀ answer, ReadsUntil P (next answer)) : ReadsUntil P (.kind p next)
  | entries {p next} (later : ∀ answer, ReadsUntil P (next answer)) :
    ReadsUntil P (.entries p next)

def ReadsOnly (t : FileTask α) : Prop := t.ReadsUntil fun t => ∃ a, t = .done a

theorem ReadsOnly.bind_readsUntil {P : FileTask β → Prop} {t : FileTask α} {f : α → FileTask β}
    (first : t.ReadsOnly) (later : ∀ a, (f a).ReadsUntil P) : (t.bind f).ReadsUntil P := by
  induction first with
  | here h =>
    obtain ⟨a, rfl⟩ := h
    exact later a
  | read _ ih => exact .read ih
  | kind _ ih => exact .kind ih
  | entries _ ih => exact .entries ih

theorem ReadsUntil.exists_ends {P : FileTask α → Prop} {t : FileTask α} (reads : t.ReadsUntil P)
    {tree tree' : FileTree} {a : α} (h : t.Ends tree a tree') : ∃ u, P u ∧ u.Ends tree a tree' := by
  induction reads with
  | here found => exact ⟨_, found, h⟩
  | read _ ih =>
    cases h with
    | read answer _ rest => exact ih answer rest
  | kind _ ih =>
    cases h with
    | kind answer _ rest => exact ih answer rest
  | entries _ ih =>
    cases h with
    | entries answer _ rest => exact ih answer rest

theorem ReadsOnly.run_snd {t : FileTask α} (reads : t.ReadsOnly) (tree : FileTree) :
    (t.run tree).2 = tree := by
  induction reads with
  | here h =>
    obtain ⟨a, rfl⟩ := h
    rfl
  | read _ ih => exact ih _
  | kind _ ih => exact ih _
  | entries _ ih => exact ih _

theorem readsOnly_done (a : α) : (done a).ReadsOnly := .here ⟨a, rfl⟩

theorem readsOnly_readFile (p : Path) : (readFile p).ReadsOnly := .read readsOnly_done

theorem readsOnly_kindOf (p : Path) : (kindOf p).ReadsOnly := .kind readsOnly_done

theorem readsOnly_entriesOf (p : Path) : (entriesOf p).ReadsOnly := .entries readsOnly_done

theorem ReadsOnly.bind {t : FileTask α} {f : α → FileTask β} (first : t.ReadsOnly)
    (later : ∀ a, (f a).ReadsOnly) : (t >>= f).ReadsOnly := first.bind_readsUntil later

theorem readsOnly_ite {c : Prop} [Decidable c] {t u : FileTask α} (yes : t.ReadsOnly)
    (no : u.ReadsOnly) : (if c then t else u).ReadsOnly := by
  split
  · exact yes
  · exact no

theorem run_forEach_append (f : α → FileTask β) (as bs : List α) (tree : FileTree) :
    (forEach f (as ++ bs)).run tree =
      (((forEach f as).run tree).1 ++ ((forEach f bs).run ((forEach f as).run tree).2).1,
        ((forEach f bs).run ((forEach f as).run tree).2).2) := by
  induction as generalizing tree with
  | nil => rfl
  | cons a as ih =>
    rw [List.cons_append, forEach, forEach, run_bind, run_bind, run_bind, run_bind, ih]
    rfl

theorem readsOnly_forEach {f : α → FileTask β} (each : ∀ a, (f a).ReadsOnly) (as : List α) :
    (forEach f as).ReadsOnly := by
  induction as with
  | nil => exact readsOnly_done []
  | cons a as ih => exact (each a).bind fun b => ih.bind fun bs => readsOnly_done (b :: bs)

end FileTask

open FileTask

namespace Wildcard

variable {search : List Segment → Path → FileTask (List Path)}

theorem readsOnly_goOn (reads : ∀ segments p, (search segments p).ReadsOnly)
    (segments : List Segment) (p : Path) : (goOn search segments p).ReadsOnly :=
  readsOnly_ite (readsOnly_done _) (reads segments p)

theorem readsOnly_enter (reads : ∀ segments p, (search segments p).ReadsOnly) (name : String)
    (p : Path) (segments : List Segment) : (enter search name p segments).ReadsOnly := by
  cases segments with
  | nil => exact readsOnly_done _
  | cons segment segments =>
    exact readsOnly_ite (readsOnly_done _) (readsOnly_goOn reads segments p)

theorem readsOnly_visit (reads : ∀ segments p, (search segments p).ReadsOnly) (directory : Path)
    (segment : Segment) (segments : List Segment) (name : String) :
    (visit search directory segment segments name).ReadsOnly := by
  have enters := readsOnly_enter reads name (entryPath directory name)
  cases segment with
  | name s => exact enters (.name s :: segments)
  | tokens ts => exact enters (.tokens ts :: segments)
  | directories =>
    have below (here : List Path) : (do
        return here ++ (← search (.directories :: dropDirectories segments)
          (entryPath directory name)) : FileTask (List Path)).ReadsOnly :=
      (reads _ _).bind fun paths => readsOnly_done (here ++ paths)
    refine (readsOnly_kindOf _).bind fun kind => readsOnly_ite ?_ (enters _)
    exact readsOnly_ite ((readsOnly_done _).bind below) ((enters _).bind below)

theorem readsOnly_searchName (reads : ∀ segments p, (search segments p).ReadsOnly) (s : String)
    (segments : List Segment) (directory : Path) :
    (searchName search s segments directory).ReadsOnly := by
  have goes := readsOnly_goOn reads segments
  have next (there : Option FileKind) (p : Path) :
      (if s = "." || s = ".." then
        if there = some .directory then goOn search segments p else pure []
      else if there.isSome then goOn search segments p
      else pure [] : FileTask (List Path)).ReadsOnly :=
    readsOnly_ite (readsOnly_ite (goes p) (readsOnly_done _))
      (readsOnly_ite (goes p) (readsOnly_done _))
  exact readsOnly_ite ((readsOnly_kindOf _).bind fun there => next there _)
    ((readsOnly_kindOf _).bind fun there => next there _)

theorem readsOnly_searchEntries (reads : ∀ segments p, (search segments p).ReadsOnly)
    (segment : Segment) (segments : List Segment) (directory : Path) :
    (searchEntries search segment segments directory).ReadsOnly := by
  refine (readsOnly_kindOf _).bind fun kind => readsOnly_ite ?_ (readsOnly_done _)
  refine (readsOnly_forEach (fun name => readsOnly_goOn reads _ _) _).bind fun special => ?_
  refine (readsOnly_entriesOf _).bind fun names => ?_
  exact (readsOnly_forEach (readsOnly_visit reads directory segment segments) _).bind
    fun found => readsOnly_done _

theorem readsOnly_searchIn (n : Nat) (segments : List Segment) (directory : Path) :
    (searchIn n segments directory).ReadsOnly := by
  induction n generalizing segments directory with
  | zero => exact readsOnly_done []
  | succ n ih =>
    match segments with
    | [] => exact readsOnly_done []
    | .name s :: segments => exact readsOnly_searchName ih s segments directory
    | .directories :: segments => exact readsOnly_searchEntries ih _ segments directory
    | .tokens ts :: segments => exact readsOnly_searchEntries ih _ segments directory

theorem readsOnly_paths (g : Glob) : g.paths.ReadsOnly := by
  refine (readsOnly_searchIn _ _ _).bind fun found => readsOnly_ite ?_ (readsOnly_done _)
  exact (readsOnly_forEach readsOnly_kindOf _).bind fun kinds => readsOnly_done _

end Wildcard

namespace Workspace

theorem readsOnly_readList (root p : Path) : (readList root p).ReadsOnly :=
  (readsOnly_readFile _).bind fun _ => readsOnly_done _

theorem readsOnly_entryFiles (root : Path) (entry : String) :
    (entryFiles root entry).ReadsOnly := by
  refine readsOnly_ite (readsOnly_done _) ?_
  split
  · exact readsOnly_done []
  · rename_i glob _
    refine (Wildcard.readsOnly_paths glob).bind fun paths => ?_
    exact (readsOnly_forEach readsOnly_kindOf _).bind fun kinds => readsOnly_done _

theorem readsOnly_sourceFiles (root : Path) (entries : List String) :
    (sourceFiles root entries).ReadsOnly :=
  (readsOnly_forEach (readsOnly_entryFiles root) _).bind fun _ => readsOnly_done _

theorem readsOnly_readSource (root file : Path) : (readSource root file).ReadsOnly :=
  (readsOnly_readFile _).bind fun _ => readsOnly_done _

end Workspace

end GuidelineCompliance
