import GuidelineCompliance.Proofs.Paths

/-! Trees inside of trees. A path that goes through the names of a directory and then stays below
it leads to where it would in the tree of this directory alone, whatever the names are and whatever
is beside them. -/

namespace GuidelineCompliance

namespace Path

def Proper (s : String) : Prop := inner s = some (.name s) ∧ '/' ∉ s.toList

instance (s : String) : Decidable (Proper s) := inferInstanceAs (Decidable (_ ∧ _))

variable {s : String}

theorem Proper.ne_empty (proper : Proper s) : s ≠ "" := by
  rintro rfl
  cases proper.1

theorem Proper.ne_dot (proper : Proper s) : s ≠ "." := by
  rintro rfl
  cases proper.1

theorem Proper.ne_dots (proper : Proper s) : s ≠ ".." := by
  rintro rfl
  cases proper.1

theorem slashless_of_proper {names : List String} (proper : ∀ s ∈ names, Proper s) :
    Slashless names := fun s hs => (proper s hs).2

/-- The level that a segment leads to, if it does not lead above the ground. -/
def level (n : Nat) (segment : String) : Option Nat :=
  match inner segment with
  | some (.name _) => some (n + 1)
  | some .parent => if n = 0 then none else some (n - 1)
  | _ => some n

theorem level_of_proper (proper : Proper s) (n : Nat) : level n s = some (n + 1) := by
  rw [level, proper.1]

theorem level_mono {n n' m : Nat} (h : level n s = some m) (le : n ≤ n') :
    ∃ m', level n' s = some m' ∧ m ≤ m' := by
  unfold level at h ⊢
  split at h
  · cases h
    exact ⟨n' + 1, rfl, by omega⟩
  · split at h
    · cases h
    · cases h
      exact ⟨n' - 1, if_neg (by omega), by omega⟩
  · cases h
    exact ⟨n', rfl, le⟩

/-- The level where segments end, if they never lead above the ground. -/
def levels (ss : List String) : Option Nat := ss.foldlM level 0

theorem levels_concat (ss : List String) (s : String) :
    levels (ss ++ [s]) = (levels ss).bind (level · s) := by
  rw [levels, List.foldlM_append, ← levels]
  cases levels ss <;> simp

theorem levels_openEnd (ss : List String) : levels (openEnd ss) = levels ss := by
  rw [openEnd]
  split
  · rename_i ended
    obtain rfl | ⟨front, last, rfl⟩ := List.eq_nil_or_concat' ss
    · rfl
    · rw [List.getLast?_concat] at ended
      obtain rfl := Option.some.inj ended
      rw [List.dropLast_concat, levels_concat]
      cases levels front <;> rfl
  · rfl

theorem dropParts_append {ps : List (String × Option Component)}
    (meant : ∀ x ∈ ps, x.2.isSome = true) (qs : List (String × Option Component)) :
    dropParts ps.length (ps ++ qs) = qs := by
  induction ps with
  | nil => cases qs <;> rfl
  | cons x ps ih =>
    obtain ⟨first, rest⟩ := List.forall_mem_cons.mp meant
    obtain ⟨s, c⟩ := x
    obtain ⟨c, rfl⟩ := Option.isSome_iff_exists.mp first
    rw [List.cons_append, List.length_cons, dropParts, ih rest]

/-- Where a directory lies whose path is spelled out: at names behind the root, or behind the
directory that paths lead on from. -/
structure Site where
  absolute : Bool
  names : List String

namespace Site

def segments (site : Site) : List String :=
  if site.absolute then "" :: site.names else site.names

def below (site : Site) (ss : List String) : Path := ofSegments (site.segments ++ ss)

def path (site : Site) : Path := site.below []

structure Named (site : Site) : Prop where
  nonempty : site.names ≠ []
  proper : ∀ s ∈ site.names, Proper s

def components (site : Site) : List Component :=
  if site.absolute then .root :: site.names.map .name else site.names.map .name

def parts (site : Site) : List (String × Option Component) :=
  if site.absolute then ("", some .root) :: site.names.map fun s => (s, some (.name s))
  else site.names.map fun s => (s, some (.name s))

theorem below_concat (absolute : Bool) (names : List String) (s : String) :
    Site.below ⟨absolute, names⟩ [s] = Site.path ⟨absolute, names ++ [s]⟩ := by
  cases absolute <;> simp [path, below, segments]

variable {site : Site} {ss : List String}

theorem filterMap_parts (site : Site) : site.parts.filterMap Prod.snd = site.components := by
  unfold parts components
  split <;> simp [List.filterMap_map]

theorem dropParts_parts (site : Site) (ps : List (String × Option Component)) :
    dropParts site.components.length (site.parts ++ ps) = ps := by
  have meant : ∀ x ∈ site.parts, x.2.isSome = true := by
    unfold parts
    split <;> simp
  have length : site.components.length = site.parts.length := by
    unfold parts components
    split <;> simp
  rw [length]
  exact dropParts_append meant ps

namespace Named

variable (named : site.Named)
include named

theorem exists_concat : ∃ front last, site.segments = front ++ [last] ∧ Proper last := by
  obtain ⟨front, last, names⟩ := List.eq_nil_or_concat' site.names |>.resolve_left named.nonempty
  have proper := named.proper last (by simp [names])
  unfold segments
  split
  · exact ⟨"" :: front, last, by rw [names, List.cons_append], proper⟩
  · exact ⟨front, last, names, proper⟩

theorem segments_ne_nil : site.segments ≠ [] := by
  obtain ⟨front, last, split, -⟩ := named.exists_concat
  simp [split]

theorem slashless : Slashless site.segments := by
  have names := slashless_of_proper named.proper
  unfold segments
  split
  · exact List.forall_mem_cons.mpr ⟨by decide, names⟩
  · exact names

theorem segments_below (free : Slashless ss) :
    Path.segments (site.below ss) = site.segments ++ ss :=
  segments_ofSegments (by simp [named.segments_ne_nil]) (named.slashless.append free)

theorem isAbsolute_below (free : Slashless ss) : (site.below ss).isAbsolute = site.absolute := by
  have split := named.segments_below free
  obtain ⟨s, names, spelled⟩ := List.exists_cons_of_ne_nil named.nonempty
  have first := named.proper s (by simp [spelled])
  rw [segments, spelled] at split
  cases absolute : site.absolute with
  | true =>
    rw [absolute, if_pos rfl] at split
    exact (isAbsolute_iff split).mpr ⟨rfl, List.cons_ne_nil _ _⟩
  | false =>
    rw [absolute, if_neg Bool.false_ne_true] at split
    rw [Bool.eq_false_iff]
    exact fun absolute => first.ne_empty ((isAbsolute_iff split).mp absolute).1

theorem below_ne_empty (free : Slashless ss) : site.below ss ≠ "" := by
  intro empty
  have split := named.segments_below free
  obtain ⟨front, last, spelled, proper⟩ := named.exists_concat
  have alone : Path.segments "" = [""] := by decide
  rw [empty, alone, spelled, List.append_assoc] at split
  have mem : last ∈ [""] := split ▸ List.mem_append_right front List.mem_cons_self
  exact proper.ne_empty (List.mem_singleton.mp mem)

theorem parts_below (free : Slashless ss) :
    Path.parts (site.below ss) = site.parts ++ ss.map fun s => (s, inner s) := by
  have split := named.segments_below free
  have absolute := named.isAbsolute_below free
  have names : site.names.map (fun s => (s, inner s)) =
      site.names.map fun s => (s, some (.name s)) :=
    List.map_congr_left fun s hs => by rw [(named.proper s hs).1]
  obtain ⟨s, more, spelled⟩ := List.exists_cons_of_ne_nil named.nonempty
  have first := named.proper s (by simp [spelled])
  unfold parts
  rw [segments] at split
  cases rooted : site.absolute with
  | true =>
    rw [rooted, if_pos rfl] at split
    rw [List.cons_append] at split
    rw [parts_eq split, absolute, rooted, List.map_append, names]
    rfl
  | false =>
    rw [rooted, if_neg Bool.false_ne_true, spelled] at split
    rw [parts_eq split, absolute, rooted, if_neg Bool.false_ne_true, ← names, spelled]
    simp [front, first.ne_dot]

theorem components_below (free : Slashless ss) :
    Path.components (site.below ss) = site.components ++ ss.filterMap inner := by
  rw [Path.components, named.parts_below free, List.filterMap_append, filterMap_parts,
    List.filterMap_map]
  rfl

theorem openEnd_append (ss : List String) :
    openEnd (site.segments ++ ss) = site.segments ++ openEnd ss := by
  by_cases empty : ss = []
  · obtain ⟨front, last, split, proper⟩ := named.exists_concat
    rw [empty, List.append_nil, openEnd, split, List.getLast?_concat,
      if_neg fun ended => proper.ne_empty (Option.some.inj ended)]
    exact (List.append_nil _).symm
  · exact Path.openEnd_append empty

theorem join_below (free : Slashless ss) {p : Path} (relative : p.isAbsolute = false) :
    (site.below ss).join p = site.below (openEnd ss ++ Path.segments p) := by
  rw [below, join_ofSegments (by simp [named.segments_ne_nil]) (named.slashless.append free)
    relative, named.openEnd_append, List.append_assoc, below]

theorem join_path {p : Path} (relative : p.isAbsolute = false) :
    site.path.join p = site.below (Path.segments p) := named.join_below slashless_nil relative

theorem relativeTo_below (free : Slashless ss) :
    site.path.relativeTo (site.below ss) =
      textOf ((ss.map fun s => (s, inner s)).dropWhile isVoid) := by
  have dir : Path.components site.path = site.components := by
    rw [path, named.components_below slashless_nil, List.filterMap_nil, List.append_nil]
  have filled : site.components ≠ [] := by
    have names := named.nonempty
    unfold components
    split <;> simp [names]
  have starts : site.components.isPrefixOf (Path.components (site.below ss)) := by
    rw [named.components_below free, List.isPrefixOf_iff_prefix]
    exact List.prefix_append _ _
  simp only [relativeTo, dir, List.isEmpty_iff, filled, if_false, starts, if_true]
  rw [named.parts_below free, dropParts_parts]

end Named

end Site

end Path

open GuidelineCompliance.Path

namespace FileEntry

open FileTree (Place)

inductive WellNamed : FileEntry → Prop where
  | file (content : Text.Octets) : WellNamed (file content)
  | directory {entries : List (String × FileEntry)} (proper : ∀ e ∈ entries, Proper e.1)
    (below : ∀ e ∈ entries, WellNamed e.2) : WellNamed (directory entries)

theorem mem_of_lookup_eq_some {name : String} {t : FileEntry} {entries : List (String × FileEntry)}
    (h : entries.lookup name = some t) : (name, t) ∈ entries := by
  induction entries with
  | nil => cases h
  | cons entry entries ih =>
    obtain ⟨m, old⟩ := entry
    rw [lookup_cons_eq_ite] at h
    split at h
    · cases h
      simp [*]
    · exact List.mem_cons_of_mem _ (ih h)

theorem WellNamed.get? {tree sub : FileEntry} {place : Place} (named : tree.WellNamed)
    (found : tree.get? place = some sub) : sub.WellNamed := by
  induction place generalizing tree with
  | nil =>
    cases tree <;> cases found <;> exact named
  | cons name place ih =>
    cases tree with
    | file content => cases found
    | directory entries =>
      rw [get?_directory_cons, Option.bind_eq_some_iff] at found
      obtain ⟨t, entry, found⟩ := found
      cases named with
      | directory _ below => exact ih (below _ (mem_of_lookup_eq_some entry)) found

def names : FileEntry → List String
  | file _ => []
  | directory entries => entries.map Prod.fst

def reach? (tree : FileEntry) (ss : List String) : Option FileEntry :=
  (tree.follow [] ss).toOption.bind tree.get?

theorem WellNamed.proper_of_mem_names {tree : FileEntry} (named : tree.WellNamed)
    {ss : List String} : ∀ s ∈ ((tree.reach? ss).map names).getD [], Proper s := by
  intro s hs
  cases reached : tree.reach? ss with
  | none => simp [reached] at hs
  | some t =>
    obtain ⟨place, -, found⟩ := Option.bind_eq_some_iff.mp reached
    rw [reached] at hs
    cases named.get? found with
    | file content => cases hs
    | directory proper below =>
      obtain ⟨e, he, rfl⟩ := List.mem_map.mp hs
      exact proper e he

theorem isSome_get?_of_append {root sub : FileEntry} {place more : Place}
    (found : root.get? (place ++ more) = some sub) : ∃ t, root.get? place = some t := by
  rw [get?_append, Option.bind_eq_some_iff] at found
  exact found.imp fun t h => h.1

theorem nodeAt?_of_append {root sub : FileEntry} {place more : Place} (nonempty : more ≠ [])
    (found : root.get? (place ++ more) = some sub) : root.nodeAt? place = some .directory := by
  obtain ⟨s, more, rfl⟩ := List.exists_cons_of_ne_nil nonempty
  rw [get?_append, Option.bind_eq_some_iff] at found
  obtain ⟨t, here, found⟩ := found
  cases t with
  | file content => cases found
  | directory entries => rw [nodeAt?, here]; rfl

theorem follow_of_proper {root sub : FileEntry} {names : Place} (place : Place)
    (proper : ∀ s ∈ names, Proper s) (found : root.get? (place ++ names) = some sub) :
    root.follow place names = .ok (place ++ names) := by
  induction names generalizing place with
  | nil => simp [follow, pure, Except.pure]
  | cons s names ih =>
    obtain ⟨first, rest⟩ := List.forall_mem_cons.mp proper
    have parent := nodeAt?_of_append (List.cons_ne_nil s names) found
    rw [List.append_cons] at found ⊢
    have there : (root.nodeAt? (place ++ [s])).isSome = true := by
      obtain ⟨t, here⟩ := isSome_get?_of_append found
      rw [nodeAt?, here]
      rfl
    rw [follow, List.foldlM_cons, step_eq_ok_of_name parent first.1 there]
    exact ih _ rest found

section Below

variable {root sub : FileEntry} {site : Place}

theorem get?_below (found : root.get? site = some sub) (place : Place) :
    root.get? (site ++ place) = sub.get? place := by
  rw [get?_append, found, Option.bind_some]

theorem step_below (found : root.get? site = some sub) {place : Place} {s : String} {m : Nat}
    (inside : level place.length s = some m) :
    root.step (site ++ place) s = (sub.step place s).map (site ++ ·) ∧
      ∀ next, sub.step place s = .ok next → next.length = m := by
  simp only [step, get?_below found]
  rw [level] at inside
  cases sub.get? place with
  | none => exact ⟨rfl, fun next h => by cases h⟩
  | some t =>
    cases t with
    | file content => exact ⟨rfl, fun next h => by cases h⟩
    | directory entries =>
      cases meant : inner s with
      | none =>
        rw [meant] at inside
        cases inside
        exact ⟨rfl, fun next h => by cases h; rfl⟩
      | some c =>
        rw [meant] at inside
        cases c with
        | root => exact absurd meant (inner_ne_root s)
        | current => exact absurd meant (inner_ne_current s)
        | parent =>
          have deep : place ≠ [] := by
            rintro rfl
            cases inside
          obtain rfl : place.length - 1 = m := by simpa [deep] using inside
          refine ⟨?_, fun next h => by cases h; simp⟩
          simp [Except.map, List.dropLast_append_of_ne_nil deep]
        | name n =>
          cases inside
          by_cases there : (entries.lookup n).isSome = true
          · refine ⟨by simp [there, Except.map], fun next h => ?_⟩
            simp only [there, if_true, Except.ok.injEq] at h
            simp [← h]
          · simp [there, Except.map]

theorem follow_below (found : root.get? site = some sub) {ss : List String} (place : Place)
    {m : Nat} (inside : ss.foldlM level place.length = some m) :
    root.follow (site ++ place) ss = (sub.follow place ss).map (site ++ ·) := by
  induction ss generalizing place with
  | nil => rfl
  | cons s ss ih =>
    simp only [List.foldlM_cons, Option.bind_eq_bind, Option.bind_eq_some_iff] at inside
    obtain ⟨n, first, rest⟩ := inside
    -- The place is as deep as the level says, so the next step does not leave the tree below.
    obtain ⟨whole, length⟩ := step_below found first
    rw [follow, follow, List.foldlM_cons, List.foldlM_cons, whole]
    cases alone : sub.step place s with
    | error e => rfl
    | ok next =>
      obtain rfl := length next alone
      exact ih next rest

end Below

end FileEntry

namespace FileTree

def placeOf (tree : FileTree) (site : Site) : Place :=
  if site.absolute then site.names else tree.working ++ site.names

structure Holds (tree : FileTree) (site : Site) (sub : FileEntry) : Prop extends site.Named where
  found : tree.root.get? (tree.placeOf site) = some sub

variable {tree : FileTree} {site : Site} {sub : FileEntry}

theorem placeOf_eq (tree : FileTree) (site : Site) :
    tree.placeOf site = (if site.absolute then [] else tree.working) ++ site.names := by
  unfold placeOf
  split <;> rfl

namespace Holds

variable (holds : tree.Holds site sub)
include holds

theorem follow_segments :
    tree.root.follow (if site.absolute then [] else tree.working) site.segments =
      .ok (tree.placeOf site) := by
  have found := holds.found
  rw [placeOf_eq] at found ⊢
  have names := FileEntry.follow_of_proper _ holds.proper found
  unfold Site.segments
  split
  · rename_i absolute
    rw [if_pos absolute] at found names
    obtain ⟨entries, top⟩ :=
      FileEntry.exists_directory (FileEntry.nodeAt?_of_append holds.nonempty found)
    have stays : tree.root.step [] "" = .ok [] := by simp [FileEntry.step, top, Path.inner]
    rw [FileEntry.follow, List.foldlM_cons, stays]
    exact names
  · rename_i relative
    rw [if_neg relative] at names
    exact names

theorem resolve_below {ss : List String} {n : Nat} (inside : levels ss = some n)
    (free : Slashless ss) :
    tree.resolve (site.below ss) = (sub.follow [] ss).map (tree.placeOf site ++ ·) := by
  have further := FileEntry.follow_below holds.found [] inside
  rw [List.append_nil] at further
  rw [resolve, if_neg (holds.below_ne_empty free), start, holds.isAbsolute_below free,
    ← segments, holds.segments_below free, FileEntry.follow_append, holds.follow_segments]
  exact further

theorem get?_below (place : Place) : tree.get? (tree.placeOf site ++ place) = sub.get? place :=
  FileEntry.get?_below holds.found place

theorem kind?_below {ss : List String} {n : Nat} (inside : levels ss = some n)
    (free : Slashless ss) :
    tree.kind? (site.below ss) = (sub.reach? ss).map FileEntry.kind := by
  rw [kind?, holds.resolve_below inside free, FileEntry.reach?]
  cases sub.follow [] ss with
  | error e => rfl
  | ok place => simp [Except.map, Except.toOption, holds.get?_below]

theorem entries_below {ss : List String} {n : Nat} (inside : levels ss = some n)
    (free : Slashless ss) :
    tree.entries (site.below ss) = ((sub.reach? ss).map FileEntry.names).getD [] := by
  rw [entries, holds.resolve_below inside free, FileEntry.reach?]
  cases sub.follow [] ss with
  | error e => rfl
  | ok place =>
    simp only [Except.map, Except.toOption, holds.get?_below, Option.bind_some]
    cases sub.get? place with
    | none => rfl
    | some t => cases t <;> rfl

theorem isSome_kind? : (tree.kind? site.path).isSome = true := by
  rw [Site.path, holds.kind?_below (show levels [] = some 0 from rfl) slashless_nil]
  simp [FileEntry.reach?, FileEntry.follow, pure, Except.pure, Except.toOption, FileEntry.get?]

theorem exists_front {front back : List String} (names : site.names = front ++ back)
    (nonempty : front ≠ []) : ∃ t, tree.Holds ⟨site.absolute, front⟩ t := by
  have found := holds.found
  rw [placeOf_eq, names, ← List.append_assoc] at found
  obtain ⟨t, here⟩ := FileEntry.isSome_get?_of_append found
  have proper : ∀ s ∈ front, Proper s :=
    fun s hs => holds.proper s (names ▸ List.mem_append_left back hs)
  exact ⟨t, ⟨nonempty, proper⟩, by rw [placeOf_eq]; exact here⟩

theorem proper_of_mem_entries (named : sub.WellNamed) {ss : List String} {n : Nat}
    (inside : levels ss = some n) (free : Slashless ss) :
    ∀ s ∈ tree.entries (site.below ss), Proper s := by
  rw [holds.entries_below inside free]
  exact named.proper_of_mem_names

end Holds

end FileTree

end GuidelineCompliance
