import GuidelineCompliance.Proofs.Separators
import GuidelineCompliance.Workspace.FileTree
import Mathlib.Data.List.Basic

/-! What writing a file does to a tree. The path then leads to a file with what was written, and at
every other place there is what there was before. -/

namespace GuidelineCompliance

namespace Path

theorem eq_of_inner_eq_name {segment name : String} (h : inner segment = some (.name name)) :
    name = segment := by
  unfold inner at h
  split at h <;> simp_all

end Path

namespace FileEntry

open FileTree (Place)
open Text (Octets)

theorem lookup_cons_eq_ite (n m : String) (t : FileEntry) (entries : List (String × FileEntry)) :
    ((m, t) :: entries).lookup n = if n = m then some t else entries.lookup n := by
  rw [List.lookup_cons]
  by_cases h : n = m
  · subst h
    simp
  · rw [if_neg h, beq_false_of_ne h]

theorem lookup_setEntry (name : String) (t : FileEntry) (entries : List (String × FileEntry))
    (n : String) :
    (setEntry name t entries).lookup n = if n = name then some t else entries.lookup n := by
  induction entries with
  | nil => exact lookup_cons_eq_ite n name t []
  | cons entry entries ih =>
    obtain ⟨m, old⟩ := entry
    rw [setEntry, lookup_cons_eq_ite]
    by_cases hm : m = name
    · subst hm
      rw [if_pos rfl, lookup_cons_eq_ite]
      by_cases h : n = m <;> simp [h]
    · rw [if_neg hm, lookup_cons_eq_ite, ih]
      by_cases h : n = m
      · subst h
        simp [hm]
      · simp [h]

theorem get?_directory_cons (entries : List (String × FileEntry)) (name : String) (place : Place) :
    (directory entries).get? (name :: place) = (entries.lookup name).bind (·.get? place) := by
  rw [get?]

theorem get?_append (tree : FileEntry) (place more : Place) :
    tree.get? (place ++ more) = (tree.get? place).bind (·.get? more) := by
  induction place generalizing tree with
  | nil => cases tree <;> rfl
  | cons name place ih =>
    cases tree with
    | file content => rfl
    | directory entries =>
      rw [List.cons_append, get?_directory_cons, get?_directory_cons, Option.bind_assoc]
      congr
      funext t
      exact ih t

/-- What is at a place of a tree, without what is below it. -/
inductive Node where
  | file (content : Octets)
  | directory
  deriving DecidableEq

def node : FileEntry → Node
  | file content => .file content
  | directory _ => .directory

def nodeAt? (tree : FileEntry) (place : Place) : Option Node := (tree.get? place).map node

theorem nodeAt?_directory_cons (entries : List (String × FileEntry)) (name : String)
    (place : Place) :
    (directory entries).nodeAt? (name :: place) =
      (entries.lookup name).bind (·.nodeAt? place) := by
  rw [nodeAt?, get?_directory_cons, Option.map_bind]
  rfl

/-- A place where a file can be put: its directory is there, and it is no directory itself. -/
structure Vacant (tree : FileEntry) (place : Place) (name : String) : Prop where
  parent : tree.nodeAt? place = some .directory
  free : tree.nodeAt? (place ++ [name]) ≠ some .directory

theorem Vacant.exists_entry {entries : List (String × FileEntry)} {step name : String}
    {place : Place} (h : (directory entries).Vacant (step :: place) name) :
    ∃ sub, entries.lookup step = some sub ∧ sub.Vacant place name := by
  obtain ⟨parent, free⟩ := h
  rw [nodeAt?_directory_cons] at parent
  rw [List.cons_append, nodeAt?_directory_cons] at free
  cases found : entries.lookup step with
  | none => simp [found] at parent
  | some sub =>
    rw [found] at parent free
    exact ⟨sub, rfl, parent, free⟩

section Put

variable {tree : FileEntry} {place : Place} {name : String} (content : Octets)

theorem get?_put_self (h : tree.Vacant place name) :
    (put (file content) tree (place ++ [name])).get? (place ++ [name]) = some (file content) := by
  induction place generalizing tree with
  | nil =>
    cases tree with
    | file old => cases h.parent
    | directory entries =>
      rw [List.nil_append, put, get?_directory_cons, lookup_setEntry, if_pos rfl]
      simp [put, get?]
  | cons step place ih =>
    cases tree with
    | file old => cases h.parent
    | directory entries =>
      obtain ⟨sub, found, vacant⟩ := h.exists_entry
      rw [List.cons_append, put, get?_directory_cons, lookup_setEntry, if_pos rfl, found]
      exact ih vacant

theorem nodeAt?_put_of_ne (h : tree.Vacant place name) {q : Place} (other : q ≠ place ++ [name]) :
    (put (file content) tree (place ++ [name])).nodeAt? q = tree.nodeAt? q := by
  induction place generalizing tree q with
  | nil =>
    cases tree with
    | file old => cases h.parent
    | directory entries =>
      cases q with
      | nil => rfl
      | cons step q =>
        rw [List.nil_append, put, nodeAt?_directory_cons, nodeAt?_directory_cons, lookup_setEntry]
        by_cases same : step = name
        · subst same
          rw [if_pos rfl]
          -- Below a file there is nothing, and nothing was there before.
          cases q with
          | nil => exact absurd rfl other
          | cons next q =>
            have free := h.free
            rw [List.nil_append, nodeAt?_directory_cons] at free
            cases found : entries.lookup step with
            | none => simp [put, nodeAt?, get?]
            | some sub =>
              cases sub with
              | file old => simp [put, nodeAt?, get?]
              | directory inner => simp [found, nodeAt?, get?, node] at free
        · rw [if_neg same]
  | cons step place ih =>
    cases tree with
    | file old => cases h.parent
    | directory entries =>
      obtain ⟨sub, found, vacant⟩ := h.exists_entry
      cases q with
      | nil => rfl
      | cons first q =>
        rw [List.cons_append, put, nodeAt?_directory_cons, nodeAt?_directory_cons, lookup_setEntry]
        by_cases same : first = step
        · subst same
          rw [if_pos rfl, found]
          exact ih vacant fun equal => other (by rw [equal]; rfl)
        · rw [if_neg same]

end Put

theorem exists_directory {tree : FileEntry} {place : Place}
    (h : tree.nodeAt? place = some .directory) :
    ∃ entries, tree.get? place = some (directory entries) := by
  rw [nodeAt?, Option.map_eq_some_iff] at h
  obtain ⟨t, found, kind⟩ := h
  cases t with
  | file content => cases kind
  | directory entries => exact ⟨entries, found⟩

theorem isSome_lookup_eq {tree : FileEntry} {place : Place} {entries : List (String × FileEntry)}
    (h : tree.get? place = some (directory entries)) (name : String) :
    (entries.lookup name).isSome = (tree.nodeAt? (place ++ [name])).isSome := by
  rw [nodeAt?, get?_append, h, Option.bind_some, get?_directory_cons]
  cases entries.lookup name with
  | none => rfl
  | some t => cases t <;> rfl

theorem vacant_of_get?_eq_some {tree : FileEntry} {place : Place}
    {entries : List (String × FileEntry)} {name : String}
    (found : tree.get? place = some (directory entries))
    (free : ∀ inner, entries.lookup name ≠ some (directory inner)) : tree.Vacant place name := by
  refine ⟨by rw [nodeAt?, found]; rfl, fun taken => ?_⟩
  rw [nodeAt?, get?_append, found, Option.bind_some, get?_directory_cons] at taken
  cases entry : entries.lookup name with
  | none => simp [entry] at taken
  | some t =>
    cases t with
    | file old => simp [entry, get?, node] at taken
    | directory inner => exact free inner entry

/-- Every place of the one tree is also one of the other, and every directory stays one. -/
structure Keeps (tree tree' : FileEntry) : Prop where
  directories : ∀ q, tree.nodeAt? q = some .directory → tree'.nodeAt? q = some .directory
  places : ∀ q, (tree.nodeAt? q).isSome = true → (tree'.nodeAt? q).isSome = true

theorem keeps_put {tree : FileEntry} {place : Place} {name : String} (h : tree.Vacant place name)
    (content : Octets) : tree.Keeps (put (file content) tree (place ++ [name])) where
  directories q hq := by
    by_cases same : q = place ++ [name]
    · subst same
      exact absurd hq h.free
    · rw [nodeAt?_put_of_ne content h same, hq]
  places q hq := by
    by_cases same : q = place ++ [name]
    · subst same
      rw [nodeAt?, get?_put_self content h]
      rfl
    · rw [nodeAt?_put_of_ne content h same, hq]

namespace Keeps

variable {root root' : FileEntry} (h : root.Keeps root')
include h

theorem step_eq_ok {place next : Place} {segment : String}
    (ok : root.step place segment = .ok next) : root'.step place segment = .ok next := by
  cases found : root.get? place with
  | none => simp [step, found] at ok
  | some t =>
    cases t with
    | file content => simp [step, found] at ok
    | directory entries =>
      obtain ⟨entries', found'⟩ :=
        exists_directory (h.directories place (by rw [nodeAt?, found]; rfl))
      simp only [step, found] at ok
      simp only [step, found']
      split at ok
      · rename_i name named
        split at ok
        · rename_i there
          rw [isSome_lookup_eq found] at there
          rw [if_pos (isSome_lookup_eq found' name ▸ h.places _ there)]
          exact ok
        · cases ok
      · exact ok
      · exact ok

theorem follow_eq_ok {segments : List String} {place next : Place}
    (ok : root.follow place segments = .ok next) : root'.follow place segments = .ok next := by
  induction segments generalizing place with
  | nil => exact ok
  | cons segment segments ih =>
    rw [follow, List.foldlM_cons] at ok ⊢
    cases first : root.step place segment with
    | error e =>
      rw [first] at ok
      cases ok
    | ok between =>
      rw [first] at ok
      rw [h.step_eq_ok first]
      exact ih ok

end Keeps

theorem follow_append (root : FileEntry) (place : Place) (segments more : List String) :
    root.follow place (segments ++ more) =
      (root.follow place segments).bind (root.follow · more) := by
  rw [follow, List.foldlM_append]
  rfl

theorem step_eq_ok_of_name {root : FileEntry} {place : Place} {segment name : String}
    (parent : root.nodeAt? place = some .directory)
    (named : Path.inner segment = some (.name name))
    (there : (root.nodeAt? (place ++ [name])).isSome = true) :
    root.step place segment = .ok (place ++ [name]) := by
  obtain ⟨entries, found⟩ := exists_directory parent
  rw [← isSome_lookup_eq found] at there
  simp only [step, found, named, if_pos there]

end FileEntry

namespace FileTree

open Text (Octets)

def nodeAt? (tree : FileTree) (place : Place) : Option FileEntry.Node := tree.root.nodeAt? place

@[simp] theorem root_put (e : FileEntry) (tree : FileTree) (place : Place) :
    (put e tree place).root = FileEntry.put e tree.root place := rfl

@[simp] theorem start_put (e : FileEntry) (tree : FileTree) (place : Place) (p : Path) :
    (put e tree place).start p = tree.start p := rfl

theorem split_eq_of_splitLast {p : Path} (nonempty : p ≠ "")
    (open? : p.toList.getLast? ≠ some '/') :
    Text.split '/' p = (splitLast p).1 ++ [(splitLast p).2] := by
  have pieces : Text.split '/' p ≠ [] := by simp [Text.split, Text.splitOn_ne_nil]
  obtain ⟨front, last, split⟩ := List.eq_nil_or_concat' (Text.split '/' p) |>.resolve_left pieces
  have named : last ≠ "" := by
    rintro rfl
    have ended : (Text.splitOn '/' p.toList).getLast? = some [] := by
      have whole := congrArg List.getLast? split
      simpa [Text.split] using whole
    obtain empty | slash := Text.getLast?_eq_sep_of_splitOn ended
    · exact nonempty (String.toList_eq_nil_iff.mp empty)
    · exact open? slash
  simp [splitLast, split, named]

theorem exists_vacant_of_write {tree tree' : FileTree} {p : Path} {content : Octets}
    (h : tree.write p content = .ok tree') :
    ∃ place name, tree.root.Vacant place name ∧
      tree' = put (.file content) tree (place ++ [name]) ∧
      tree'.resolve p = .ok (place ++ [name]) := by
  simp only [write, bind, Except.bind, pure, Except.pure, throw, throwThe, MonadExceptOf.throw] at h
  split at h
  · cases h
  rename_i nonempty
  split at h
  · cases h
  rename_i place followed
  split at h
  · cases h
  · cases h
  rename_i entries found
  split at h
  · cases h
  · rename_i name x named free
    split at h
    · cases h
    rename_i open?
    cases h
    obtain rfl := Path.eq_of_inner_eq_name named
    have vacant : tree.root.Vacant place (splitLast p).2 :=
      FileEntry.vacant_of_get?_eq_some found free
    have keeps := FileEntry.keeps_put vacant content
    have written := FileEntry.get?_put_self content vacant
    have last := FileEntry.step_eq_ok_of_name (keeps.directories _ vacant.parent) named
      (by rw [FileEntry.nodeAt?, written]; rfl)
    refine ⟨place, _, vacant, rfl, ?_⟩
    rw [resolve, if_neg nonempty, split_eq_of_splitLast nonempty open?, FileEntry.follow_append,
      root_put, start_put, keeps.follow_eq_ok followed]
    simp [Except.bind, FileEntry.follow, last]
  · cases h

theorem read_of_write {tree tree' : FileTree} {p : Path} {content : Octets}
    (h : tree.write p content = .ok tree') :
    tree'.read p = .ok content ∧
      ∀ q, tree'.resolve p ≠ .ok q → tree'.nodeAt? q = tree.nodeAt? q := by
  obtain ⟨place, name, vacant, rfl, reaches⟩ := exists_vacant_of_write h
  constructor
  · simp only [read, reaches, bind, Except.bind, get?, root_put,
      FileEntry.get?_put_self content vacant]
    rfl
  · intro q other
    rw [nodeAt?, root_put]
    refine FileEntry.nodeAt?_put_of_ne content vacant fun same => other ?_
    rw [reaches, same]

end FileTree

end GuidelineCompliance
